import Skirmish.Proofs.Geometry.Corners

/-!
# Boxes as sets of points

The questions about boxes are answered by their corners, and the corners saturate.  Still the
answers are those of the points: a box with points in it has its lower corner and the point next to
its upper one, so corners in order, corners that overlap and corners inside corners say the same as
points that exist, points in common and points among points.

The quarters of a box tile it.  A box inside it that no quarter covers has an edge on either side of
one of the two lines through the center, so that it has points on both sides.

## Main definitions

* `Box.LiesAcross` — a box on both sides of the vertical or the horizontal line through a point.

## Main results

* `Box.isEmpty_iff_forall_not_mem`, `Box.meets_iff_exists_mem`, `Box.covers_iff_forall_mem` — the
  three questions, in terms of points.
* `Box.corners_decide_points` — the three together.
* `Box.exists_quarter_covers_iff` — a box inside a divided one lies across its center, or inside a
  quarter.
* `Box.tiled_by_quarters` — the points of the quarters, and the boxes inside them.
-/

namespace Skirmish

/-- The greater one of two coordinates. -/
theorem Coord.exists_toInt_eq_max (a b : Int32) : ∃ c : Int32, c.toInt = max a.toInt b.toInt := by
  rcases Int.le_total a.toInt b.toInt with h | h
  · exact ⟨b, (Int.max_eq_right h).symm⟩
  · exact ⟨a, (Int.max_eq_left h).symm⟩

namespace Box

variable {a b c : Box} {p : Point}

/-! ### The outermost points -/

theorem low_mem (points : ¬ b.IsEmpty) : b.low ∈ b :=
  (Covers.refl b).low_mem points

/-- The upper right point of a box, which is next to its upper corner. -/
theorem exists_last_mem (points : ¬ b.IsEmpty) :
    ∃ p ∈ b, p.x.toInt + 1 = b.high.x.toInt ∧ p.y.toInt + 1 = b.high.y.toInt := by
  obtain ⟨wide, tall⟩ := low_lt_high_of_not_isEmpty points
  obtain ⟨x, hx⟩ := Coord.exists_toInt_eq_pred wide
  obtain ⟨y, hy⟩ := Coord.exists_toInt_eq_pred tall
  refine ⟨⟨x, y⟩, ?_, ?_⟩
  · rw [mem_iff_toInt]
    dsimp only
    omega
  · dsimp only
    omega

theorem not_isEmpty_of_mem (h : p ∈ b) : ¬ b.IsEmpty := by
  rw [mem_iff_toInt] at h
  obtain ⟨left, right, below, above⟩ := h
  exact not_isEmpty_of_low_lt_high (Int.lt_of_le_of_lt left right) (Int.lt_of_le_of_lt below above)

/-! ### The three questions -/

/-- A box is empty when it has no points. -/
theorem isEmpty_iff_forall_not_mem : b.IsEmpty ↔ ∀ p, p ∉ b := by
  constructor
  · intro empty p hp
    exact not_isEmpty_of_mem hp empty
  · intro none
    exact Decidable.byContradiction fun points => none b.low (low_mem points)

/-- Boxes meet when they have a point in common. -/
theorem meets_iff_exists_mem : a.Meets b ↔ ∃ p, p ∈ a ∧ p ∈ b := by
  rw [meets_iff_toInt]
  constructor
  · rintro ⟨ha, hb, overlap⟩
    -- the lower corner of what the boxes have in common
    obtain ⟨x, hx⟩ := Coord.exists_toInt_eq_max a.low.x b.low.x
    obtain ⟨y, hy⟩ := Coord.exists_toInt_eq_max a.low.y b.low.y
    have := low_lt_high_of_not_isEmpty ha
    have := low_lt_high_of_not_isEmpty hb
    refine ⟨⟨x, y⟩, ?_, ?_⟩ <;> rw [mem_iff_toInt] <;> dsimp only <;> omega
  · rintro ⟨p, ha, hb⟩
    refine ⟨not_isEmpty_of_mem ha, not_isEmpty_of_mem hb, ?_⟩
    rw [mem_iff_toInt] at ha hb
    omega

/-- A box covers one with points in it when it has all of these points. -/
theorem covers_iff_forall_mem (points : ¬ b.IsEmpty) : a.Covers b ↔ ∀ p ∈ b, p ∈ a := by
  rw [covers_iff_toInt]
  constructor
  · intro inside p hp
    rw [mem_iff_toInt] at hp ⊢
    omega
  · intro inside
    -- the two outermost points reach as far as the corners
    obtain ⟨last, hlast, x, y⟩ := exists_last_mem points
    have first_mem := inside b.low (low_mem points)
    have last_mem := inside last hlast
    rw [mem_iff_toInt] at first_mem last_mem
    omega

/-- **The corners speak for the points.**  Two boxes meet if and only if they have a point in
common, a box is empty if and only if it has no points, and a box covers one that is not empty if and
only if it has all of its points; whatever the centers and half-extents, and whether corners saturate
or not. -/
theorem corners_decide_points (a b : Box) :
    (a.Meets b ↔ ∃ p, p ∈ a ∧ p ∈ b) ∧ (a.IsEmpty ↔ ∀ p, p ∉ a) ∧
      (¬ b.IsEmpty → (a.Covers b ↔ ∀ p ∈ b, p ∈ a)) :=
  ⟨meets_iff_exists_mem, isEmpty_iff_forall_not_mem, covers_iff_forall_mem⟩

/-- A box whose right edge lies beyond the coordinate range. -/
def shore : Box := ⟨⟨2147483615, 0⟩, ⟨64, 64⟩⟩

/-- A box inside it, around a point on the horizontal line through its center. -/
def pier : Box := ⟨⟨2147483640, 0⟩, ⟨8, 3⟩⟩

/-- The upper corners of both boxes saturate.  Still the corners tell that the boxes have points in
common, and that the one has all points of the other. -/
theorem corners_decide_points_pier : ¬ pier.IsEmpty ∧ (∃ p, p ∈ shore ∧ p ∈ pier) ∧
    ∀ p ∈ pier, p ∈ shore := by
  obtain ⟨common, -, inside⟩ := corners_decide_points shore pier
  have points : ¬ pier.IsEmpty := by decide
  have meets : shore.Meets pier := by decide +kernel
  have covers : shore.Covers pier := by decide +kernel
  exact ⟨points, common.mp meets, (inside points).mp covers⟩

/-- An empty box has corners all the same: a box that they do not lie in does not cover it. -/
example : IsEmpty ⟨⟨5, 5⟩, ⟨0, 0⟩⟩ ∧ ¬ around.Covers ⟨⟨5, 5⟩, ⟨0, 0⟩⟩ := by decide +kernel

/-! ### Boxes inside a divided box -/

/-- A box lies across a point when it reaches to both sides of the vertical line through it, or to
both sides of the horizontal one. -/
def LiesAcross (b : Box) (p : Point) : Prop :=
  (b.low.x < p.x ∧ p.x < b.high.x) ∨ b.low.y < p.y ∧ p.y < b.high.y

instance (b : Box) (p : Point) : Decidable (b.LiesAcross p) :=
  inferInstanceAs (Decidable (_ ∨ _))

theorem liesAcross_iff_toInt : b.LiesAcross p ↔
    (b.low.x.toInt < p.x.toInt ∧ p.x.toInt < b.high.x.toInt) ∨
      b.low.y.toInt < p.y.toInt ∧ p.y.toInt < b.high.y.toInt := by
  unfold LiesAcross
  simp only [Int32.lt_iff_toInt_lt]

/-- A quarter covers a box inside the divided one that ends at the center, on the quarter's side of
it. -/
theorem IsQuarter.covers_iff {q : Quarter} (h : b.IsQuarter q a) (inside : b.Covers c) :
    a.Covers c ↔
      (if q.isEast then b.center.x.toInt ≤ c.low.x.toInt else c.high.x.toInt ≤ b.center.x.toInt) ∧
      (if q.isNorth then b.center.y.toInt ≤ c.low.y.toInt
        else c.high.y.toInt ≤ b.center.y.toInt) := by
  rw [covers_iff_toInt] at inside ⊢
  rw [h.low_x, h.high_x, h.low_y, h.high_y]
  cases q.isEast <;> cases q.isNorth <;>
    simp only [if_true, Bool.false_eq_true, if_false] <;> omega

variable {areas : Quad Box}

/-- A box inside a divided one lies across its center, or a quarter covers it. -/
theorem exists_quarter_covers_iff (h : b.quarters? = .ok (some areas)) (inside : b.Covers c) :
    (∃ q, (areas.get q).Covers c) ↔ ¬ c.LiesAcross b.center := by
  simp only [fun q => (isQuarter_get h q).covers_iff inside, liesAcross_iff_toInt, not_or, not_and,
    Int.not_lt]
  constructor
  · rintro ⟨q, covers⟩
    cases east : q.isEast <;> cases north : q.isNorth <;>
      simp only [east, north, if_true, Bool.false_eq_true, if_false] at covers <;> omega
  · rintro ⟨x, y⟩
    -- on each axis the box begins at the center, or ends there
    by_cases hx : c.low.x.toInt < b.center.x.toInt <;>
      by_cases hy : c.low.y.toInt < b.center.y.toInt
    · exact ⟨.southWest, x hx, y hy⟩
    · exact ⟨.northWest, x hx, Int.not_lt.mp hy⟩
    · exact ⟨.southEast, Int.not_lt.mp hx, y hy⟩
    · exact ⟨.northEast, Int.not_lt.mp hx, Int.not_lt.mp hy⟩

/-- **The quarters tile the box.**  Of a box that is divided without a fault every point belongs to
exactly one quarter, and the quarters have no other points.  So at most one quarter covers a box
with points in it, and a box inside the divided one that no quarter covers lies across its
center. -/
theorem tiled_by_quarters (h : b.quarters? = .ok (some areas)) :
    (∀ p ∈ b, ∃! q, p ∈ areas.get q) ∧ (∀ q, ∀ p ∈ areas.get q, p ∈ b) ∧
      ∀ c : Box, ¬ c.IsEmpty → b.Covers c →
        (∀ q r, (areas.get q).Covers c → (areas.get r).Covers c → q = r) ∧
          ((∀ q, ¬ (areas.get q).Covers c) ↔ c.LiesAcross b.center) := by
  refine ⟨fun p => existsUnique_quarter h, fun q p hp => ?_, fun c points inside => ⟨?_, ?_⟩⟩
  · exact ((isQuarter_get h q).mem_iff.mp hp).1
  · intro q r hq hr
    exact (isQuarter_get h q).eq_of_covers (isQuarter_get h r) points hq hr
  · rw [← not_exists, exists_quarter_covers_iff h inside, Decidable.not_not]

/-- The corners of the divided box and of two quarters saturate.  The last column of the coordinate
range has a point in one of them, and no quarter covers the box around the line. -/
theorem tiled_by_quarters_shore : ∃ areas, shore.quarters? = .ok (some areas) ∧ ¬ shore.Exact ∧
    (∃! q, ⟨2147483646, 0⟩ ∈ areas.get q) ∧ ¬ pier.IsEmpty ∧ shore.Covers pier ∧
      ∀ q, ¬ (areas.get q).Covers pier := by
  let areas : Quad Box :=
    { southWest := centered 2147483583 (-32) 32 32
      southEast := centered 2147483647 (-32) 32 32
      northWest := centered 2147483583 32 32 32
      northEast := centered 2147483647 32 32 32 }
  have divided : shore.quarters? = .ok (some areas) := rfl
  obtain ⟨unique, -, inside⟩ := tiled_by_quarters divided
  have points : ¬ pier.IsEmpty := by decide
  have covers : shore.Covers pier := by decide +kernel
  have across : pier.LiesAcross shore.center := by decide +kernel
  have saturates : ¬ shore.Exact := by
    intro exact
    have right : ¬ Coord.InRange (shore.center.x.toInt + shore.half.x.toInt) := by decide
    exact right exact.high_x
  exact ⟨areas, divided, saturates, unique _ (by decide +kernel), points, covers,
    (inside pier points covers).2.mpr across⟩

end Box

end Skirmish
