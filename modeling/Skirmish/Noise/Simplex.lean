import Skirmish.Noise.Permutation

/-!
# Simplex noise in the plane

A noise field assigns to each point of the plane a value that varies smoothly.  The plane is skewed
into a lattice of triangles; each corner of the triangle around a point contributes a gradient that
fades with the distance, and the gradients are chosen by hashing the lattice coordinates.

## Main definitions

* `Noise.Field` — a noise field, given by its permutation.
* `Noise.Field.value` — its value at a point.
-/

namespace Skirmish.Noise

/-- A noise field. -/
structure Field where
  /-- The permutation that hashes lattice coordinates. -/
  table : Array UInt8

namespace Field

/-- The noise field of a seed. -/
def ofSeed (seed : UInt32) : Field := ⟨permutation seed⟩

/-- How far a point is skewed, per unit of the sum of its coordinates. -/
def skew : Float := (Float.sqrt 3 - 1) / 2

/-- How far a lattice point is skewed back. -/
def unskew : Float := (1 - 1 / Float.sqrt 3) / 2

/-- The lattice coordinate at or below a skewed coordinate; a coordinate that is an integer and not
positive falls to the one below it. -/
def latticeFloor (a : Float) : Int :=
  if a > 0 then (a.toUInt64.toNat : Int) else -((-a).toUInt64.toNat : Int) - 1

/-- An integer of moderate size as a number. -/
def ofLattice (n : Int) : Float :=
  let magnitude := n.natAbs.toUInt64.toFloat
  if n < 0 then -magnitude else magnitude

/-- An entry of the permutation. -/
def entry (f : Field) (i : Nat) : Nat := (f.table.getD i 0).toNat

/-- The hash of a lattice point. -/
def hash (f : Field) (i j : Int) : Nat :=
  f.entry (f.entry (i % 256).toNat ^^^ (j % 256).toNat)

/-- The length of a coordinate of a diagonal gradient. -/
def diagonal : Float := 0.7071067811865476

/-- The eight gradients: along the axes, then along the diagonals. -/
def gradient : Nat → Float × Float
  | 0 => (1, 0)
  | 1 => (-1, 0)
  | 2 => (0, 1)
  | 3 => (0, -1)
  | 4 => (diagonal, diagonal)
  | 5 => (-diagonal, diagonal)
  | 6 => (diagonal, -diagonal)
  | _ => (-diagonal, -diagonal)

/-- What a corner contributes at a displacement from it. -/
def corner (hash : Nat) (a b : Float) : Float :=
  let t := 1 - (a * a + b * b) * 2
  if t > 0 then
    let (gx, gy) := gradient (hash % 8)
    let t2 := t * t
    let t4 := t2 * t2
    (2 * t2 + t4) * (a * gx + b * gy)
  else 0

/-- The value of a noise field at a point: the contributions of the three corners around it. -/
def value (f : Field) (x y : Float) : Float :=
  let s := (x + y) * skew
  let i := latticeFloor (x + s)
  let j := latticeFloor (y + s)
  -- the displacement from the lattice point below, back in the plane
  let u := ofLattice (i + j) * unskew
  let x1 := x - (ofLattice i - u)
  let y1 := y - (ofLattice j - u)
  -- the middle corner lies to the right in the lower triangle and above in the upper one
  let (ox, oy) : Int × Int := if x1 > y1 then (1, 0) else (0, 1)
  let x2 := x1 - ofLattice ox + unskew
  let y2 := y1 - ofLattice oy + unskew
  let x3 := x1 - 1 + 2 * unskew
  let y3 := y1 - 1 + 2 * unskew
  corner (f.hash i j) x1 y1 + corner (f.hash (i + ox) (j + oy)) x2 y2
    + corner (f.hash (i + 1) (j + 1)) x3 y3

end Field

end Skirmish.Noise
