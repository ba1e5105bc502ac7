import Mathlib.Logic.ExistsUnique
import Skirmish.Geometry.Box
import Skirmish.Proofs.Checked

/-!
# Boxes inside boxes

The corners of a box saturate, so every statement about them is one about the exact corners brought
into the coordinate range.  Covering is a partial order on corners, and what meets a box meets
every box that covers it.  The four quarters of a box share its outer corners and meet at its
center, so they tile it, also where its own corners saturate.

## Main definitions

* `Box.Exact` — boxes whose corners do not saturate.
* `Quarter.isEast`, `Quarter.isNorth` — the side of the center that a quarter lies on.
* `Box.IsQuarter` — the measures of a quarter, in terms of the box that is divided.
* `Box.Part` — the boxes that a box is divided into, level by level.

## Main results

* `Box.Covers.meets` — what meets a box meets every box that covers it.
* `Box.IsQuarter.mem_iff` — a point belongs to the quarter on its side of the center.
* `Box.IsQuarter.eq_of_covers` — only one quarter covers a box with points in it.
* `Box.existsUnique_quarter` — a point of a box belongs to exactly one quarter.
* `Box.Exact.quarters?` — dividing an exact box is no fault.
-/

namespace Skirmish

theorem Coord.inRange_iff {n : Int} :
    Coord.InRange n ↔ -2147483648 ≤ n ∧ n ≤ 2147483647 := Iff.rfl

namespace Box

/-! ### Corners -/

theorem toInt_low_x (b : Box) : b.low.x.toInt
    = max (-2147483648) (min (b.center.x.toInt - b.half.x.toInt) 2147483647) :=
  Coord.toInt_saturate _

theorem toInt_low_y (b : Box) : b.low.y.toInt
    = max (-2147483648) (min (b.center.y.toInt - b.half.y.toInt) 2147483647) :=
  Coord.toInt_saturate _

theorem toInt_high_x (b : Box) : b.high.x.toInt
    = max (-2147483648) (min (b.center.x.toInt + b.half.x.toInt) 2147483647) :=
  Coord.toInt_saturate _

theorem toInt_high_y (b : Box) : b.high.y.toInt
    = max (-2147483648) (min (b.center.y.toInt + b.half.y.toInt) 2147483647) :=
  Coord.toInt_saturate _

theorem isEmpty_iff_toInt {b : Box} :
    b.IsEmpty ↔ b.half.x.toInt ≤ 0 ∨ b.half.y.toInt ≤ 0 := by
  unfold IsEmpty
  rw [Int32.le_iff_toInt_le, Int32.le_iff_toInt_le]
  rfl

/-- A box whose corners leave no room on an axis has no positive half-extent there. -/
theorem not_isEmpty_of_low_lt_high {b : Box} (hx : b.low.x.toInt < b.high.x.toInt)
    (hy : b.low.y.toInt < b.high.y.toInt) : ¬ b.IsEmpty := by
  rw [toInt_low_x, toInt_high_x] at hx
  rw [toInt_low_y, toInt_high_y] at hy
  rw [isEmpty_iff_toInt]
  omega

theorem low_lt_high_of_not_isEmpty {b : Box} (h : ¬ b.IsEmpty) :
    b.low.x.toInt < b.high.x.toInt ∧ b.low.y.toInt < b.high.y.toInt := by
  have hx := Coord.inRange_toInt b.center.x
  have hy := Coord.inRange_toInt b.center.y
  rw [Coord.inRange_iff] at hx hy
  rw [isEmpty_iff_toInt] at h
  rw [toInt_low_x, toInt_high_x, toInt_low_y, toInt_high_y]
  omega

theorem eq_of_toInt_eq {a b : Box} (half : a.half = b.half)
    (x : a.center.x.toInt = b.center.x.toInt) (y : a.center.y.toInt = b.center.y.toInt) :
    a = b := by
  have center : a.center = b.center := by
    rw [Point.mk.injEq]
    exact ⟨Int32.toInt_inj.mp x, Int32.toInt_inj.mp y⟩
  rw [Box.mk.injEq]
  exact ⟨center, half⟩

/-! ### Covering -/

theorem covers_iff_toInt {outer inner : Box} : outer.Covers inner ↔
    outer.low.x.toInt ≤ inner.low.x.toInt ∧ inner.high.x.toInt ≤ outer.high.x.toInt ∧
      outer.low.y.toInt ≤ inner.low.y.toInt ∧ inner.high.y.toInt ≤ outer.high.y.toInt := by
  unfold Covers
  simp only [Int32.le_iff_toInt_le]

theorem mem_iff_toInt {p : Point} {b : Box} : p ∈ b ↔
    b.low.x.toInt ≤ p.x.toInt ∧ p.x.toInt < b.high.x.toInt ∧
      b.low.y.toInt ≤ p.y.toInt ∧ p.y.toInt < b.high.y.toInt := by
  rw [mem_def]
  simp only [Int32.le_iff_toInt_le, Int32.lt_iff_toInt_lt]

theorem meets_iff_toInt {a b : Box} : a.Meets b ↔ ¬ a.IsEmpty ∧ ¬ b.IsEmpty ∧
    a.low.x.toInt < b.high.x.toInt ∧ b.low.x.toInt < a.high.x.toInt ∧
      a.low.y.toInt < b.high.y.toInt ∧ b.low.y.toInt < a.high.y.toInt := by
  unfold Meets
  simp only [Int32.lt_iff_toInt_lt]

theorem Covers.refl (b : Box) : b.Covers b := by
  rw [covers_iff_toInt]
  omega

theorem Covers.trans {a b c : Box} (hab : a.Covers b) (hbc : b.Covers c) : a.Covers c := by
  rw [covers_iff_toInt] at *
  omega

/-- A box covers the lower corner of every box with points in it that it covers. -/
theorem Covers.low_mem {outer inner : Box} (hc : outer.Covers inner) (points : ¬ inner.IsEmpty) :
    inner.low ∈ outer := by
  have := low_lt_high_of_not_isEmpty points
  rw [covers_iff_toInt] at hc
  rw [mem_iff_toInt]
  omega

/-- What meets a box meets every box that covers it. -/
theorem Covers.meets {outer inner region : Box} (hc : outer.Covers inner)
    (hm : inner.Meets region) : outer.Meets region := by
  rw [covers_iff_toInt] at hc
  rw [meets_iff_toInt] at *
  obtain ⟨inner_nonempty, region_nonempty, hm⟩ := hm
  have := low_lt_high_of_not_isEmpty inner_nonempty
  refine ⟨not_isEmpty_of_low_lt_high ?_ ?_, region_nonempty, ?_⟩ <;> omega

end Box

/-! ### Quarters -/

namespace Quarter

/-- The place of a quarter among the four. -/
def index : Quarter → Nat
  | .southWest => 0
  | .southEast => 1
  | .northWest => 2
  | .northEast => 3

theorem index_lt (q : Quarter) : q.index < 4 := by cases q <;> decide

theorem exists_index_eq {k : Nat} (h : k < 4) : ∃ q : Quarter, q.index = k := by
  match k with
  | 0 => exact ⟨.southWest, rfl⟩
  | 1 => exact ⟨.southEast, rfl⟩
  | 2 => exact ⟨.northWest, rfl⟩
  | 3 => exact ⟨.northEast, rfl⟩
  | k + 4 => omega

/-- Whether a quarter lies to the right of the center. -/
def isEast : Quarter → Bool
  | .southWest | .northWest => false
  | .southEast | .northEast => true

/-- Whether a quarter lies above the center. -/
def isNorth : Quarter → Bool
  | .southWest | .southEast => false
  | .northWest | .northEast => true

theorem eq_iff_sides {q r : Quarter} : q = r ↔ q.isEast = r.isEast ∧ q.isNorth = r.isNorth := by
  cases q <;> cases r <;> simp [isEast, isNorth]

end Quarter

namespace Box

/-- The measures of a quarter of a box. -/
structure IsQuarter (b : Box) (q : Quarter) (a : Box) : Prop where
  two_le_half_x : 2 ≤ b.half.x.toInt
  two_le_half_y : 2 ≤ b.half.y.toInt
  half_x : 2 * a.half.x.toInt = b.half.x.toInt
  half_y : 2 * a.half.y.toInt = b.half.y.toInt
  center_x : a.center.x.toInt
    = if q.isEast then b.center.x.toInt + a.half.x.toInt else b.center.x.toInt - a.half.x.toInt
  center_y : a.center.y.toInt
    = if q.isNorth then b.center.y.toInt + a.half.y.toInt else b.center.y.toInt - a.half.y.toInt

private theorem toInt_two : (2 : Int32).toInt = 2 := by decide

/-- Half of an even coordinate that is at least two. -/
private theorem toInt_div_two {h : Int32} (le : ¬ h < 2) (even : h % 2 = 0) :
    2 ≤ h.toInt ∧ 2 * (h / 2).toInt = h.toInt := by
  rw [Int32.lt_iff_toInt_lt, toInt_two] at le
  have hmod : h.toInt.tmod 2 = 0 := by
    have := congrArg Int32.toInt even
    rwa [Int32.toInt_mod, toInt_two] at this
  rw [Int32.toInt_div_of_ne_right _ _ (by decide), toInt_two]
  have := Int.mul_tdiv_add_tmod h.toInt 2
  omega

/-- The quarters of a box have their measures. -/
theorem isQuarter_get {b : Box} {areas : Quad Box} (h : b.quarters? = .ok (some areas))
    (q : Quarter) : b.IsQuarter q (areas.get q) := by
  simp only [quarters?] at h
  split at h
  case isTrue => simp at h
  case isFalse large =>
    simp only [not_or, ne_eq, Decidable.not_not] at large
    obtain ⟨hx, hy, evenx, eveny⟩ := large
    obtain ⟨lex, halfx⟩ := toInt_div_two hx evenx
    obtain ⟨ley, halfy⟩ := toInt_div_two hy eveny
    simp only [Checked.bind_eq_ok_iff, Coord.sub, Coord.add, Coord.check_eq_ok_iff] at h
    obtain ⟨west, hw, south, hs, east, he, north, hn, h⟩ := h
    simp only [Except.ok.injEq, Option.some.injEq] at h
    subst h
    refine ⟨lex, ley, ?_, ?_, ?_, ?_⟩ <;>
      cases q <;> simp only [Quad.get, centered, Quarter.isEast, Quarter.isNorth, if_true,
        Bool.false_eq_true, if_false] <;> assumption

/-- The only faults of dividing a box are centers outside the coordinate range. -/
theorem isArithmetic_of_quarters?_eq_error {b : Box} {f : Fault}
    (h : b.quarters? = .error f) : f.IsArithmetic := by
  simp only [quarters?] at h
  split at h
  case isTrue => simp at h
  case isFalse =>
    simp only [Coord.sub, Coord.add, Coord.check] at h
    unfold Fault.IsArithmetic
    repeat' split at h
    all_goals simp_all [bind, Except.bind]

section Corners

variable {b a : Box} {q : Quarter}

theorem IsQuarter.low_x (h : b.IsQuarter q a) :
    a.low.x.toInt = if q.isEast then b.center.x.toInt else b.low.x.toInt := by
  have := Coord.inRange_toInt b.center.x
  obtain ⟨two_le, -, half, -, center, -⟩ := h
  rw [Coord.inRange_iff] at this
  rw [toInt_low_x, toInt_low_x]
  cases side : q.isEast with
  | true =>
    rw [side, if_pos rfl] at center
    rw [if_pos rfl]
    omega
  | false =>
    rw [side, if_neg nofun] at center
    rw [if_neg nofun]
    omega

theorem IsQuarter.high_x (h : b.IsQuarter q a) :
    a.high.x.toInt = if q.isEast then b.high.x.toInt else b.center.x.toInt := by
  have := Coord.inRange_toInt b.center.x
  obtain ⟨two_le, -, half, -, center, -⟩ := h
  rw [Coord.inRange_iff] at this
  rw [toInt_high_x, toInt_high_x]
  cases side : q.isEast with
  | true =>
    rw [side, if_pos rfl] at center
    rw [if_pos rfl]
    omega
  | false =>
    rw [side, if_neg nofun] at center
    rw [if_neg nofun]
    omega

theorem IsQuarter.low_y (h : b.IsQuarter q a) :
    a.low.y.toInt = if q.isNorth then b.center.y.toInt else b.low.y.toInt := by
  have := Coord.inRange_toInt b.center.y
  obtain ⟨-, two_le, -, half, -, center⟩ := h
  rw [Coord.inRange_iff] at this
  rw [toInt_low_y, toInt_low_y]
  cases side : q.isNorth with
  | true =>
    rw [side, if_pos rfl] at center
    rw [if_pos rfl]
    omega
  | false =>
    rw [side, if_neg nofun] at center
    rw [if_neg nofun]
    omega

theorem IsQuarter.high_y (h : b.IsQuarter q a) :
    a.high.y.toInt = if q.isNorth then b.high.y.toInt else b.center.y.toInt := by
  have := Coord.inRange_toInt b.center.y
  obtain ⟨-, two_le, -, half, -, center⟩ := h
  rw [Coord.inRange_iff] at this
  rw [toInt_high_y, toInt_high_y]
  cases side : q.isNorth with
  | true =>
    rw [side, if_pos rfl] at center
    rw [if_pos rfl]
    omega
  | false =>
    rw [side, if_neg nofun] at center
    rw [if_neg nofun]
    omega

/-- The center of a box that is divided lies between its corners. -/
theorem IsQuarter.center_between (h : b.IsQuarter q a) :
    b.low.x.toInt ≤ b.center.x.toInt ∧ b.center.x.toInt ≤ b.high.x.toInt ∧
      b.low.y.toInt ≤ b.center.y.toInt ∧ b.center.y.toInt ≤ b.high.y.toInt := by
  have hx := Coord.inRange_toInt b.center.x
  have hy := Coord.inRange_toInt b.center.y
  obtain ⟨two_le_x, two_le_y, -⟩ := h
  rw [Coord.inRange_iff] at hx hy
  rw [toInt_low_x, toInt_high_x, toInt_low_y, toInt_high_y]
  omega

/-- A box covers its quarters. -/
theorem IsQuarter.covers (h : b.IsQuarter q a) : b.Covers a := by
  have := h.center_between
  rw [covers_iff_toInt, h.low_x, h.high_x, h.low_y, h.high_y]
  split <;> split <;> omega

/-- A point belongs to a quarter when it belongs to the box and lies on the quarter's side of the
center. -/
theorem IsQuarter.mem_iff (h : b.IsQuarter q a) {p : Point} : p ∈ a ↔
    p ∈ b ∧ (q.isEast ↔ b.center.x.toInt ≤ p.x.toInt) ∧
      (q.isNorth ↔ b.center.y.toInt ≤ p.y.toInt) := by
  have := h.center_between
  rw [mem_iff_toInt, mem_iff_toInt, h.low_x, h.high_x, h.low_y, h.high_y]
  cases q.isEast <;> cases q.isNorth <;> simp <;> omega

/-- A quarter has points in it. -/
theorem IsQuarter.not_isEmpty (h : b.IsQuarter q a) : ¬ a.IsEmpty := by
  obtain ⟨two_le_x, two_le_y, half_x, half_y, -⟩ := h
  rw [isEmpty_iff_toInt]
  omega

/-- Only one quarter covers a box with points in it. -/
theorem IsQuarter.eq_of_covers {r : Quarter} {c box : Box} (hq : b.IsQuarter q a)
    (hr : b.IsQuarter r c) (points : ¬ box.IsEmpty) (ha : a.Covers box) (hc : c.Covers box) :
    q = r := by
  obtain ⟨-, east, north⟩ := hq.mem_iff.mp (ha.low_mem points)
  obtain ⟨-, east', north'⟩ := hr.mem_iff.mp (hc.low_mem points)
  exact Quarter.eq_iff_sides.mpr
    ⟨Bool.eq_iff_iff.mpr (east.trans east'.symm), Bool.eq_iff_iff.mpr (north.trans north'.symm)⟩

end Corners

/-- Each point of a box belongs to exactly one of its quarters. -/
theorem existsUnique_quarter {b : Box} {areas : Quad Box} (h : b.quarters? = .ok (some areas))
    {p : Point} (hp : p ∈ b) : ∃! q, p ∈ areas.get q := by
  have side (q : Quarter) : p ∈ areas.get q ↔
      (q.isEast ↔ b.center.x.toInt ≤ p.x.toInt) ∧ (q.isNorth ↔ b.center.y.toInt ≤ p.y.toInt) := by
    rw [(isQuarter_get h q).mem_iff, and_iff_right hp]
  -- the sides of the center that the point lies on name the quarter
  have unique (q r : Quarter) (hq : p ∈ areas.get q) (hr : p ∈ areas.get r) : r = q := by
    rw [side] at hq hr
    exact Quarter.eq_iff_sides.mpr
      ⟨Bool.eq_iff_iff.mpr (hr.1.trans hq.1.symm), Bool.eq_iff_iff.mpr (hr.2.trans hq.2.symm)⟩
  have exists_quarter : ∃ q, p ∈ areas.get q := by
    simp only [side]
    by_cases hx : b.center.x.toInt ≤ p.x.toInt <;> by_cases hy : b.center.y.toInt ≤ p.y.toInt
    · exact ⟨.northEast, by simp [Quarter.isEast, hx], by simp [Quarter.isNorth, hy]⟩
    · exact ⟨.southEast, by simp [Quarter.isEast, hx], by simp [Quarter.isNorth, hy]⟩
    · exact ⟨.northWest, by simp [Quarter.isEast, hx], by simp [Quarter.isNorth, hy]⟩
    · exact ⟨.southWest, by simp [Quarter.isEast, hx], by simp [Quarter.isNorth, hy]⟩
  obtain ⟨q, hq⟩ := exists_quarter
  exact ⟨q, hq, fun r hr => unique q r hq hr⟩

/-! ### Exact boxes -/

/-- A box is exact when its corners do not saturate. -/
structure Exact (b : Box) : Prop where
  low_x : Coord.InRange (b.center.x.toInt - b.half.x.toInt)
  low_y : Coord.InRange (b.center.y.toInt - b.half.y.toInt)
  high_x : Coord.InRange (b.center.x.toInt + b.half.x.toInt)
  high_y : Coord.InRange (b.center.y.toInt + b.half.y.toInt)

/-- The quarters of an exact box are exact. -/
theorem Exact.isQuarter {b a : Box} {q : Quarter} (hb : b.Exact) (h : b.IsQuarter q a) :
    a.Exact := by
  have hx := Coord.inRange_toInt b.center.x
  have hy := Coord.inRange_toInt b.center.y
  obtain ⟨two_le_x, two_le_y, half_x, half_y, center_x, center_y⟩ := h
  obtain ⟨low_x, low_y, high_x, high_y⟩ := hb
  rw [Coord.inRange_iff] at *
  split at center_x <;> split at center_y <;>
    constructor <;> rw [Coord.inRange_iff] <;> omega

/-- Dividing an exact box is no fault. -/
theorem Exact.quarters? {b : Box} (hb : b.Exact) : ∃ areas, b.quarters? = .ok areas := by
  simp only [Box.quarters?]
  split
  case isTrue => exact ⟨none, rfl⟩
  case isFalse large =>
    simp only [not_or, ne_eq, Decidable.not_not] at large
    obtain ⟨hx, hy, evenx, eveny⟩ := large
    obtain ⟨lex, halfx⟩ := toInt_div_two hx evenx
    obtain ⟨ley, halfy⟩ := toInt_div_two hy eveny
    have hx := Coord.inRange_toInt b.center.x
    have hy := Coord.inRange_toInt b.center.y
    obtain ⟨low_x, low_y, high_x, high_y⟩ := hb
    rw [Coord.inRange_iff] at *
    simp only [Coord.sub, Coord.add]
    rw [Coord.check_of_inRange, Coord.check_of_inRange, Coord.check_of_inRange,
      Coord.check_of_inRange]
    · exact ⟨_, rfl⟩
    all_goals rw [Coord.inRange_iff]; omega

/-! ### Parts -/

/-- What a box comes to when it is divided so many times in a row. -/
inductive Part (b : Box) : Nat → Box → Prop
  | whole : b.Part 0 b
  | quarter {level : Nat} {a : Box} {areas : Quad Box} (part : b.Part level a)
    (divided : a.quarters? = .ok (some areas)) (q : Quarter) : b.Part (level + 1) (areas.get q)

/-- The parts of an exact box are exact. -/
theorem Exact.part {b a : Box} {level : Nat} (hb : b.Exact) (h : b.Part level a) : a.Exact := by
  induction h with
  | whole => exact hb
  | quarter part divided q ih => exact ih.isQuarter (isQuarter_get divided q)

end Box

end Skirmish
