import Skirmish.Coord
import Skirmish.Geometry.Point

/-!
# Boxes

An axis-aligned box is given by its center and its half-extents, and covers the half-open ranges
from `center - half` to `center + half` on both axes.  Its corners saturate at the ends of the
coordinate range, so every box has corners.

## Main definitions

* `Box.low`, `Box.high` — the corners; the upper one is excluded.
* `Box.ofCorners` — the box over a rectangle given by its edges.
* `p ∈ b` — the points of a box.
* `Box.IsEmpty`, `Box.Covers`, `Box.Meets` — emptiness, containment and overlap, all decidable.
* `Quad`, `Box.quarters?` — the four quarters of a box whose half-extents are even.
-/

namespace Skirmish

/-- An axis-aligned box. -/
structure Box where
  /-- The middle of the box. -/
  center : Point
  /-- The distances from the center to the edges. -/
  half : Point
  deriving DecidableEq, Repr, Inhabited

namespace Box

/-- The box around the origin with half-extents one. -/
def around : Box := ⟨.origin, ⟨1, 1⟩⟩

/-- The box with the given center coordinates and half-extents. -/
def centered (x y hw hh : Int32) : Box := ⟨⟨x, y⟩, ⟨hw, hh⟩⟩

/-- Half of a span between two edges, an odd span being widened by one first. -/
def halfSpan (lower upper : Int32) : Int32 :=
  Coord.addSat (Coord.subSat upper lower) 1 / 2

/-- The box over `[left, right) × [bottom, top)`; an odd span is widened by one unit upward, so
that the center is an integer point. -/
def ofCorners (left bottom right top : Int32) : Box :=
  let hw := halfSpan left right
  let hh := halfSpan bottom top
  centered (Coord.addSat left hw) (Coord.addSat bottom hh) hw hh

/-- The lower left corner, which belongs to the box. -/
def low (b : Box) : Point :=
  ⟨Coord.subSat b.center.x b.half.x, Coord.subSat b.center.y b.half.y⟩

/-- The upper right corner, which does not belong to the box. -/
def high (b : Box) : Point :=
  ⟨Coord.addSat b.center.x b.half.x, Coord.addSat b.center.y b.half.y⟩

/-- The horizontal extent. -/
def width (b : Box) : Int32 := Coord.doubleSat b.half.x

/-- The vertical extent. -/
def height (b : Box) : Int32 := Coord.doubleSat b.half.y

/-- The same box around another center. -/
def moveTo (b : Box) (center : Point) : Box := { b with center }

@[simp] theorem half_moveTo (b : Box) (p : Point) : (b.moveTo p).half = b.half := rfl

@[simp] theorem center_moveTo (b : Box) (p : Point) : (b.moveTo p).center = p := rfl

/-- A box is empty when a half-extent is not positive. -/
def IsEmpty (b : Box) : Prop :=
  b.half.x ≤ 0 ∨ b.half.y ≤ 0

instance (b : Box) : Decidable b.IsEmpty :=
  inferInstanceAs (Decidable (_ ∨ _))

/-- The points of a box: the lower edges belong to it and the upper edges do not. -/
def Contains (b : Box) (p : Point) : Prop :=
  b.low.x ≤ p.x ∧ p.x < b.high.x ∧ b.low.y ≤ p.y ∧ p.y < b.high.y

instance : Membership Point Box := ⟨Contains⟩

theorem mem_def {p : Point} {b : Box} :
    p ∈ b ↔ b.low.x ≤ p.x ∧ p.x < b.high.x ∧ b.low.y ≤ p.y ∧ p.y < b.high.y :=
  Iff.rfl

instance (p : Point) (b : Box) : Decidable (p ∈ b) :=
  inferInstanceAs (Decidable (_ ∧ _))

/-- A box covers another when the corners of the other lie between its own. -/
def Covers (outer inner : Box) : Prop :=
  outer.low.x ≤ inner.low.x ∧ inner.high.x ≤ outer.high.x ∧
    outer.low.y ≤ inner.low.y ∧ inner.high.y ≤ outer.high.y

instance (outer inner : Box) : Decidable (outer.Covers inner) :=
  inferInstanceAs (Decidable (_ ∧ _))

/-- Two boxes meet when both are nonempty and they overlap on both axes; sharing an edge is not
enough. -/
def Meets (a b : Box) : Prop :=
  ¬ a.IsEmpty ∧ ¬ b.IsEmpty ∧
    a.low.x < b.high.x ∧ b.low.x < a.high.x ∧ a.low.y < b.high.y ∧ b.low.y < a.high.y

instance (a b : Box) : Decidable (a.Meets b) :=
  inferInstanceAs (Decidable (_ ∧ _))

end Box

/-! ### Quarters -/

/-- The four quarters of a box. -/
inductive Quarter where
  | southWest
  | southEast
  | northWest
  | northEast
  deriving DecidableEq, Repr, Inhabited

/-- One value for each quarter. -/
structure Quad (α : Type) where
  southWest : α
  southEast : α
  northWest : α
  northEast : α
  deriving DecidableEq, Repr

namespace Quad

variable {α : Type}

/-- The value for a quarter. -/
def get (q : Quad α) : Quarter → α
  | .southWest => q.southWest
  | .southEast => q.southEast
  | .northWest => q.northWest
  | .northEast => q.northEast

end Quad

namespace Box

/-- The quarters of a box, if its half-extents are even and at least two, so that they tile it.
Their centers are computed without saturation: a center outside the coordinate range is a fault. -/
def quarters? (b : Box) : Except Fault (Option (Quad Box)) :=
  let hx := b.half.x
  let hy := b.half.y
  if hx < 2 ∨ hy < 2 ∨ hx % 2 ≠ 0 ∨ hy % 2 ≠ 0 then
    .ok none
  else do
    let qx := hx / 2
    let qy := hy / 2
    let west ← Coord.sub b.center.x qx
    let south ← Coord.sub b.center.y qy
    let east ← Coord.add b.center.x qx
    let north ← Coord.add b.center.y qy
    .ok (some
      { southWest := centered west south qx qy
        southEast := centered east south qx qy
        northWest := centered west north qx qy
        northEast := centered east north qx qy })

end Box

end Skirmish
