import Skirmish.Proofs.Geometry.Box

/-!
# Boxes over rectangles

A box has an integer center, so its spans are even, and an odd span of a rectangle is widened by one
unit upward.  The span is itself a coordinate, so there is nothing left to widen a span by that is
the greatest coordinate, and a longer one is cut: of such a rectangle the box has no more than the
first 2147483646 columns or rows.

## Main definitions

* `Box.InRectangle` — the points between four edges.

## Main results

* `Coord.half_toward_zero` — halves are rounded toward zero.
* `Box.two_mul_halfSpan`, `Box.halfSpan_nonpos` — half of a span, by the order of the edges.
* `Box.mem_ofCorners_iff` — the points of the box over a rectangle.
* `Box.mem_ofCorners_iff_near` — the points of a rectangle that its box has.
* `Box.covers_rectangle_iff` — the rectangles that are covered.
-/

namespace Skirmish

namespace Coord

theorem toInt_half (a : Int32) : (a / 2).toInt = a.toInt.tdiv 2 := by
  have two : (2 : Int32).toInt = 2 := by decide
  rw [Int32.toInt_div_of_ne_right _ _ (by decide), two]

/-- Half of a coordinate is rounded toward zero. -/
theorem half_toward_zero (a : Int32) :
    (0 ≤ a.toInt → a.toInt - 1 ≤ 2 * (a / 2).toInt ∧ 2 * (a / 2).toInt ≤ a.toInt) ∧
      (a.toInt ≤ 0 → a.toInt ≤ 2 * (a / 2).toInt ∧ 2 * (a / 2).toInt ≤ a.toInt + 1) := by
  have split := Int.mul_tdiv_add_tmod a.toInt 2
  have rest := Int.tmod_two_eq a.toInt
  rw [toInt_half]
  constructor
  · intro h
    have := Int.tmod_nonneg 2 h
    omega
  · intro h
    have := Int.tmod_nonneg 2 (Int.neg_nonneg_of_nonpos h)
    rw [Int.neg_tmod] at this
    omega

/-- A coordinate above another one has a predecessor. -/
theorem exists_toInt_eq_pred {a b : Int32} (h : a.toInt < b.toInt) :
    ∃ c : Int32, c.toInt = b.toInt - 1 := by
  have ha := inRange_toInt a
  have hb := inRange_toInt b
  rw [inRange_iff] at ha hb
  exact ⟨.ofInt (b.toInt - 1), toInt_ofInt (by rw [inRange_iff]; omega)⟩

end Coord

namespace Box

section Axis

variable {lower upper c : Int32}

/-! ### Half of a span -/

/-- The span between two edges, raised by one before it is halved. -/
private theorem toInt_raisedSpan (lower upper : Int32) :
    (Coord.addSat (Coord.subSat upper lower) 1).toInt
      = max (-2147483647) (min (upper.toInt - lower.toInt + 1) 2147483647) := by
  rw [Coord.addSat, Coord.subSat, Coord.toInt_saturate, Coord.toInt_saturate, Int32.toInt_one]
  unfold Coord.least Coord.greatest
  omega

/-- Twice the half of a span is the span made even, as long as that is a coordinate. -/
theorem two_mul_halfSpan (h : lower.toInt ≤ upper.toInt) :
    2 * (halfSpan lower upper).toInt
      = min (upper.toInt - lower.toInt + (upper.toInt - lower.toInt) % 2) 2147483646 := by
  have half := (Coord.half_toward_zero (Coord.addSat (Coord.subSat upper lower) 1)).1
  rw [toInt_raisedSpan] at half
  unfold halfSpan
  omega

/-- Edges in the wrong order, or on each other, have no room between them. -/
theorem halfSpan_nonpos (h : upper.toInt ≤ lower.toInt) :
    -1073741824 < (halfSpan lower upper).toInt ∧ (halfSpan lower upper).toInt ≤ 0 := by
  have half := Coord.half_toward_zero (Coord.addSat (Coord.subSat upper lower) 1)
  rw [toInt_raisedSpan] at half
  unfold halfSpan
  omega

/-! ### The points between the corners -/

/-- The coordinates between the corners of the box over a rectangle, along one axis. -/
private theorem between_corners_iff (lower upper c : Int32) :
    (max (-2147483648) (min ((Coord.addSat lower (halfSpan lower upper)).toInt
        - (halfSpan lower upper).toInt) 2147483647) ≤ c.toInt ∧
      c.toInt < max (-2147483648) (min ((Coord.addSat lower (halfSpan lower upper)).toInt
        + (halfSpan lower upper).toInt) 2147483647)) ↔
    lower.toInt ≤ c.toInt ∧ c.toInt < upper.toInt + (upper.toInt - lower.toInt) % 2 ∧
      c.toInt < lower.toInt + 2147483646 ∧ c.toInt < 2147483647 := by
  have range := Coord.inRange_toInt lower
  have range' := Coord.inRange_toInt upper
  rw [Coord.inRange_iff] at range range'
  rw [Coord.addSat, Coord.toInt_saturate]
  unfold Coord.least Coord.greatest
  rcases Int.le_total lower.toInt upper.toInt with h | h
  · -- the middle lies between the edges, so only the upper corner can saturate
    have half := two_mul_halfSpan h
    omega
  · have half := halfSpan_nonpos h
    omega

end Axis

variable {left bottom right top : Int32} {p : Point}

/-- The points of the box over a rectangle. -/
theorem mem_ofCorners_iff : p ∈ ofCorners left bottom right top ↔
    (left.toInt ≤ p.x.toInt ∧ p.x.toInt < right.toInt + (right.toInt - left.toInt) % 2 ∧
      p.x.toInt < left.toInt + 2147483646 ∧ p.x.toInt < 2147483647) ∧
    bottom.toInt ≤ p.y.toInt ∧ p.y.toInt < top.toInt + (top.toInt - bottom.toInt) % 2 ∧
      p.y.toInt < bottom.toInt + 2147483646 ∧ p.y.toInt < 2147483647 := by
  rw [mem_iff_toInt, ← and_assoc, toInt_low_x, toInt_high_x, toInt_low_y, toInt_high_y]
  exact and_congr (between_corners_iff left right p.x) (between_corners_iff bottom top p.y)

/-- A point lies in a rectangle with these edges; the upper edges do not belong to it. -/
def InRectangle (left bottom right top : Int32) (p : Point) : Prop :=
  (left ≤ p.x ∧ p.x < right) ∧ bottom ≤ p.y ∧ p.y < top

instance : Decidable (InRectangle left bottom right top p) :=
  inferInstanceAs (Decidable (_ ∧ _))

theorem inRectangle_iff_toInt : InRectangle left bottom right top p ↔
    (left.toInt ≤ p.x.toInt ∧ p.x.toInt < right.toInt) ∧
      bottom.toInt ≤ p.y.toInt ∧ p.y.toInt < top.toInt := by
  unfold InRectangle
  simp only [Int32.le_iff_toInt_le, Int32.lt_iff_toInt_lt]

/-- The box over a rectangle has nothing beyond its edges, apart from what belongs to the upper
ones. -/
theorem between_of_mem_ofCorners (h : p ∈ ofCorners left bottom right top) :
    (left ≤ p.x ∧ p.x ≤ right) ∧ bottom ≤ p.y ∧ p.y ≤ top := by
  rw [mem_ofCorners_iff] at h
  simp only [Int32.le_iff_toInt_le]
  omega

/-- The box over a rectangle without room has no points. -/
theorem not_mem_ofCorners_of_eq (h : left = right ∨ bottom = top) :
    p ∉ ofCorners left bottom right top := by
  rw [mem_ofCorners_iff]
  rcases h with rfl | rfl
  · omega
  · omega

/-- A point of a rectangle belongs to its box, unless it is too far from the lower edges. -/
theorem mem_ofCorners_iff_near (h : InRectangle left bottom right top p) :
    p ∈ ofCorners left bottom right top ↔
      p.x.toInt - left.toInt < 2147483646 ∧ p.y.toInt - bottom.toInt < 2147483646 := by
  have hx := Coord.inRange_toInt right
  have hy := Coord.inRange_toInt top
  rw [Coord.inRange_iff] at hx hy
  rw [inRectangle_iff_toInt] at h
  rw [mem_ofCorners_iff]
  omega

/-- A rectangle with points in it is covered when its spans are less than the greatest
coordinate. -/
theorem covers_rectangle_iff :
    (∀ p, InRectangle left bottom right top p → p ∈ ofCorners left bottom right top) ↔
      (left < right → bottom < top → right.toInt - left.toInt < 2147483647 ∧
        top.toInt - bottom.toInt < 2147483647) := by
  simp only [Int32.lt_iff_toInt_lt]
  constructor
  · intro covered wide tall
    -- the upper right point of the rectangle is the farthest from the lower edges
    obtain ⟨x, hx⟩ := Coord.exists_toInt_eq_pred wide
    obtain ⟨y, hy⟩ := Coord.exists_toInt_eq_pred tall
    have inside : InRectangle left bottom right top ⟨x, y⟩ := by
      rw [inRectangle_iff_toInt]
      dsimp only
      omega
    have near := (mem_ofCorners_iff_near inside).mp (covered _ inside)
    dsimp only at near
    omega
  · intro short p inside
    rw [mem_ofCorners_iff_near inside]
    rw [inRectangle_iff_toInt] at inside
    omega

end Box

end Skirmish
