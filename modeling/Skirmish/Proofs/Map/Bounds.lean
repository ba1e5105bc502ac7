import Mathlib.Algebra.Group.Nat.Defs
import Skirmish.Map.Basic
import Skirmish.Proofs.Geometry.Corners

/-!
# Keeping boxes inside the map

The playable area starts at the origin and ends short of the last coordinate, so its corners tell
apart what lies inside from what lies beyond the coordinate range.  A box that is not larger than
the area lies inside it after it was clamped, and what lies inside is not larger than the area.

## Main definitions

* `Box.Inner` — boxes whose corners lie strictly inside the coordinate range.
* `Map.extent` — the length of a dimension of the grid in world units.

## Main results

* `Map.inner_bounds` — the playable area is such a box.
* `Map.exists_bounds`, `Map.two_mul_half_bounds` — a map that is not too large has a playable area,
  which covers every cell.
* `Box.Inner.half_le_of_covers` — what an inner box covers is not larger.
* `Map.of_clampAxis` — all that clamping along an axis gives.
* `Map.clampTo_covers` — a box that is not larger than an area lies inside it after clamping.
* `Map.exists_clamp` — clamping to the playable area has no fault.
-/

namespace Skirmish

/-- A checked operation whose exact result is a coordinate gives that result. -/
theorem Coord.exists_check (fault : Fault) {n : Int}
    (h : -2147483648 ≤ n ∧ n ≤ 2147483647) : ∃ a, check fault n = .ok a ∧ a.toInt = n :=
  ⟨_, check_of_inRange fault h, toInt_ofInt h⟩

theorem toInt_cellSize : cellSize.toInt = 32 := by decide

namespace Box

/-- A box with its corners strictly inside the coordinate range. -/
structure Inner (b : Box) : Prop where
  low_x : Coord.least < b.center.x.toInt - b.half.x.toInt ∧
    b.center.x.toInt - b.half.x.toInt < Coord.greatest
  low_y : Coord.least < b.center.y.toInt - b.half.y.toInt ∧
    b.center.y.toInt - b.half.y.toInt < Coord.greatest
  high_x : Coord.least < b.center.x.toInt + b.half.x.toInt ∧
    b.center.x.toInt + b.half.x.toInt < Coord.greatest
  high_y : Coord.least < b.center.y.toInt + b.half.y.toInt ∧
    b.center.y.toInt + b.half.y.toInt < Coord.greatest

theorem Inner.exact {b : Box} (h : b.Inner) : b.Exact where
  low_x := ⟨Int.le_of_lt h.low_x.1, Int.le_of_lt h.low_x.2⟩
  low_y := ⟨Int.le_of_lt h.low_y.1, Int.le_of_lt h.low_y.2⟩
  high_x := ⟨Int.le_of_lt h.high_x.1, Int.le_of_lt h.high_x.2⟩
  high_y := ⟨Int.le_of_lt h.high_y.1, Int.le_of_lt h.high_y.2⟩

/-- What an inner box covers is not larger. -/
theorem Inner.half_le_of_covers {area b : Box} (h : area.Inner) (covers : area.Covers b) :
    b.half.x.toInt ≤ area.half.x.toInt ∧ b.half.y.toInt ≤ area.half.y.toInt := by
  obtain ⟨low_x, low_y, high_x, high_y⟩ := h
  rw [covers_iff_toInt, toInt_low_x, toInt_low_x, toInt_high_x, toInt_high_x, toInt_low_y,
    toInt_low_y, toInt_high_y, toInt_high_y] at covers
  unfold Coord.least Coord.greatest at *
  omega

/-- Half of a span that starts at the origin, at most a quarter of the coordinate range. -/
private theorem halfSpan_zero_between (n : Int32) :
    (-1073741824 < (halfSpan 0 n).toInt ∧ (halfSpan 0 n).toInt < 1073741824) ∧
      (0 ≤ n.toInt → 0 ≤ (halfSpan 0 n).toInt) := by
  have forward (h : (0 : Int32).toInt ≤ n.toInt) := two_mul_halfSpan h
  have backward (h : n.toInt ≤ (0 : Int32).toInt) := halfSpan_nonpos h
  rw [Int32.toInt_zero] at forward backward
  omega

/-- Half of an even span that starts at the origin is not rounded. -/
theorem two_mul_halfSpan_zero {n : Int32} (even : 2 ∣ n.toInt) (positive : 0 ≤ n.toInt)
    (small : n.toInt < 2147483647) : 2 * (halfSpan 0 n).toInt = n.toInt := by
  have half (h : (0 : Int32).toInt ≤ n.toInt) := two_mul_halfSpan h
  rw [Int32.toInt_zero] at half
  omega

/-- The center of an area that starts at the origin lies half its extents away from there. -/
theorem center_ofCorners_zero (right top : Int32) :
    (ofCorners 0 0 right top).center.x.toInt = (ofCorners 0 0 right top).half.x.toInt ∧
      (ofCorners 0 0 right top).center.y.toInt = (ofCorners 0 0 right top).half.y.toInt := by
  have center (n : Int32) : (Coord.addSat 0 (halfSpan 0 n)).toInt = (halfSpan 0 n).toInt := by
    have := halfSpan_zero_between n
    rw [Coord.addSat, Coord.toInt_saturate, Int32.toInt_zero]
    unfold Coord.least Coord.greatest
    omega
  exact ⟨center right, center top⟩

/-- Half of it is less than a quarter of the coordinate range. -/
theorem half_ofCorners_zero_between (right top : Int32) :
    (-1073741824 < (ofCorners 0 0 right top).half.x.toInt ∧
      (ofCorners 0 0 right top).half.x.toInt < 1073741824) ∧
    -1073741824 < (ofCorners 0 0 right top).half.y.toInt ∧
      (ofCorners 0 0 right top).half.y.toInt < 1073741824 :=
  ⟨(halfSpan_zero_between right).1, (halfSpan_zero_between top).1⟩

/-- The area from the origin to a corner is an inner box. -/
theorem inner_ofCorners_zero (right top : Int32) : (ofCorners 0 0 right top).Inner := by
  obtain ⟨hx, hy⟩ := half_ofCorners_zero_between right top
  obtain ⟨cx, cy⟩ := center_ofCorners_zero right top
  constructor <;> (first | rw [cx] | rw [cy]) <;> unfold Coord.least Coord.greatest <;> omega

end Box

namespace Map

/-! ### The playable area -/

theorem inner_bounds {m : Map} {area : Box} (h : m.bounds = .ok area) : area.Inner := by
  simp only [bounds, Checked.bind_eq_ok_iff, Except.ok.injEq] at h
  obtain ⟨width, -, height, -, rfl⟩ := h
  exact Box.inner_ofCorners_zero width height

/-- The playable area starts at the origin, so its center lies half its extents away from there. -/
theorem center_bounds {m : Map} {area : Box} (h : m.bounds = .ok area) :
    area.center.x.toInt = area.half.x.toInt ∧ area.center.y.toInt = area.half.y.toInt := by
  simp only [bounds, Checked.bind_eq_ok_iff, Except.ok.injEq] at h
  obtain ⟨width, -, height, -, rfl⟩ := h
  exact Box.center_ofCorners_zero width height

theorem half_bounds_lt {m : Map} {area : Box} (h : m.bounds = .ok area) :
    area.half.x.toInt < 1073741824 ∧ area.half.y.toInt < 1073741824 := by
  simp only [bounds, Checked.bind_eq_ok_iff, Except.ok.injEq] at h
  obtain ⟨width, -, height, -, rfl⟩ := h
  obtain ⟨hx, hy⟩ := Box.half_ofCorners_zero_between width height
  exact ⟨hx.2, hy.2⟩

/-- The length of a dimension of the grid in world units. -/
def extent (cells : UInt32) : Int := 32 * cells.toNat

/-- The edge of less than `2 ^ 26` cells is a coordinate. -/
theorem exists_edge {cells : UInt32} (small : cells.toNat < 2 ^ 26) :
    ∃ edge, Coord.mul cells.toInt32 cellSize = .ok edge ∧ edge.toInt = extent cells := by
  have count : cells.toInt32.toInt = cells.toNat :=
    BitVec.toInt_eq_toNat_of_lt (x := cells.toBitVec) (by
      show 2 * cells.toNat < 2 ^ 32
      omega)
  obtain ⟨edge, product, exact⟩ := Coord.exists_check .multiplication
    (n := cells.toInt32.toInt * cellSize.toInt) (by rw [toInt_cellSize, count]; omega)
  refine ⟨edge, product, ?_⟩
  rw [exact, toInt_cellSize, count, extent, Int.mul_comm]

/-- A map of less than `2 ^ 26` columns and rows has a playable area. -/
theorem exists_bounds {m : Map} (wide : m.grid.width.toNat < 2 ^ 26)
    (tall : m.grid.height.toNat < 2 ^ 26) :
    ∃ area, m.bounds = .ok area ∧ 0 ≤ area.half.x.toInt ∧ 0 ≤ area.half.y.toInt := by
  obtain ⟨width, hwidth, right⟩ := exists_edge wide
  obtain ⟨height, hheight, top⟩ := exists_edge tall
  refine ⟨.ofCorners 0 0 width height, ?_, ?_⟩
  · rw [bounds, hwidth, Checked.ok_bind, hheight, Checked.ok_bind]
  · unfold extent at right top
    exact ⟨(Box.halfSpan_zero_between width).2 (by omega),
      (Box.halfSpan_zero_between height).2 (by omega)⟩

/-- It reaches from its center half of its extents to each side. -/
theorem two_mul_half_bounds {m : Map} {area : Box} (wide : m.grid.width.toNat < 2 ^ 26)
    (tall : m.grid.height.toNat < 2 ^ 26) (h : m.bounds = .ok area) :
    2 * area.half.x.toInt = extent m.grid.width ∧
      2 * area.half.y.toInt = extent m.grid.height := by
  obtain ⟨width, hwidth, right⟩ := exists_edge wide
  obtain ⟨height, hheight, top⟩ := exists_edge tall
  rw [bounds, hwidth, Checked.ok_bind, hheight, Checked.ok_bind] at h
  obtain rfl := Except.ok.inj h
  have half {n : Int32} {cells : UInt32} (edge : n.toInt = extent cells)
      (small : cells.toNat < 2 ^ 26) : 2 * (Box.halfSpan 0 n).toInt = extent cells := by
    unfold extent at *
    rw [Box.two_mul_halfSpan_zero ⟨16 * cells.toNat, by omega⟩ (by omega) (by omega), edge]
  exact ⟨half right wide, half top tall⟩

/-! ### Clamping -/

/-- All that clamping along an axis gives: the middle if the span fills the room, else the position
kept between the limits. -/
theorem of_clampAxis {pos half lo hi x : Int32} (clamped : clampAxis pos half lo hi = .ok x) :
    (hi.toInt - lo.toInt ≤ 2 * half.toInt ∧ x.toInt = (lo.toInt + hi.toInt).tdiv 2) ∨
      (2 * half.toInt < hi.toInt - lo.toInt ∧
        x.toInt = max (lo.toInt + half.toInt) (min pos.toInt (hi.toInt - half.toInt))) := by
  have two : (2 : Int32).toInt = 2 := by decide
  simp only [clampAxis, Coord.sub, Coord.add, Coord.mul, Checked.bind_eq_ok_iff,
    Coord.check_eq_ok_iff] at clamped
  obtain ⟨room, hroom, span, hspan, clamped⟩ := clamped
  rw [two] at hspan
  split at clamped
  case isTrue narrow =>
    rw [Int32.le_iff_toInt_le, hroom, hspan, Int.mul_comm] at narrow
    simp only [Checked.bind_eq_ok_iff, Coord.check_eq_ok_iff, Except.ok.injEq] at clamped
    obtain ⟨sum, hsum, rfl⟩ := clamped
    refine .inl ⟨narrow, ?_⟩
    rw [Coord.toInt_half, hsum]
  case isFalse wide =>
    rw [Int32.le_iff_toInt_le, hroom, hspan, Int.mul_comm, Int.not_le] at wide
    simp only [Checked.bind_eq_ok_iff, Coord.check_eq_ok_iff] at clamped
    obtain ⟨first, hfirst, last, hlast, clamped⟩ := clamped
    split at clamped
    case isTrue => cases clamped
    case isFalse =>
      refine .inr ⟨wide, ?_⟩
      rw [← Except.ok.inj clamped]
      simp only [Int32.lt_iff_toInt_lt]
      split
      case isTrue => omega
      case isFalse => split <;> omega

/-- Clamping along an axis: a span that is not larger than the room lies between the limits. -/
theorem between_of_clampAxis {pos half lo hi x : Int32} {c h : Int} (hlo : lo.toInt = c - h)
    (hhi : hi.toInt = c + h) (fits : half.toInt ≤ h) (clamped : clampAxis pos half lo hi = .ok x) :
    c - h ≤ x.toInt - half.toInt ∧ x.toInt + half.toInt ≤ c + h := by
  rcases of_clampAxis clamped with ⟨narrow, middle⟩ | ⟨wide, kept⟩
  · -- the span fills the room
    rw [hlo, hhi, show c - h + (c + h) = c * 2 by omega, Int.mul_tdiv_cancel _ (by decide)] at middle
    omega
  · omega

/-- A clamped box is the box around another center. -/
theorem eq_moveTo_of_clampTo {area b fitted : Box} (h : clampTo area b = .ok fitted) :
    fitted = b.moveTo fitted.center := by
  simp only [clampTo, Checked.bind_eq_ok_iff, Except.ok.injEq] at h
  obtain ⟨x, -, y, -, rfl⟩ := h
  rfl

/-- A box that is not larger than an area lies inside it after clamping. -/
theorem clampTo_covers {area b fitted : Box} (inner : area.Inner)
    (fits : b.half.x.toInt ≤ area.half.x.toInt ∧ b.half.y.toInt ≤ area.half.y.toInt)
    (h : clampTo area b = .ok fitted) : area.Covers fitted := by
  obtain ⟨low_x, low_y, high_x, high_y⟩ := inner
  have corner_x : area.low.x.toInt = area.center.x.toInt - area.half.x.toInt ∧
      area.high.x.toInt = area.center.x.toInt + area.half.x.toInt := by
    rw [Box.toInt_low_x, Box.toInt_high_x]
    unfold Coord.least Coord.greatest at *
    omega
  have corner_y : area.low.y.toInt = area.center.y.toInt - area.half.y.toInt ∧
      area.high.y.toInt = area.center.y.toInt + area.half.y.toInt := by
    rw [Box.toInt_low_y, Box.toInt_high_y]
    unfold Coord.least Coord.greatest at *
    omega
  simp only [clampTo, Checked.bind_eq_ok_iff, Except.ok.injEq] at h
  obtain ⟨x, hx, y, hy, rfl⟩ := h
  have between_x := between_of_clampAxis corner_x.1 corner_x.2 fits.1 hx
  have between_y := between_of_clampAxis corner_y.1 corner_y.2 fits.2 hy
  rw [Box.covers_iff_toInt, corner_x.1, corner_x.2, corner_y.1, corner_y.2, Box.toInt_low_x,
    Box.toInt_low_y, Box.toInt_high_x, Box.toInt_high_y, Box.half_moveTo, Box.center_moveTo]
  dsimp only
  unfold Coord.least Coord.greatest at *
  omega

/-- Clamping along an axis that starts at the origin has no fault, as long as the span of the box is
a coordinate. -/
theorem exists_clampAxis (pos : Int32) {half lo hi : Int32} (hlo : lo.toInt = 0)
    (hhi : 0 ≤ hi.toInt) (hhalf : 0 ≤ half.toInt ∧ half.toInt < 1073741824) :
    ∃ x, clampAxis pos half lo hi = .ok x := by
  have two : (2 : Int32).toInt = 2 := by decide
  have range : hi.toInt ≤ 2147483647 := (Coord.inRange_toInt hi).2
  obtain ⟨room, hroom, room_eq⟩ := Coord.exists_check .subtraction
    (n := hi.toInt - lo.toInt) (by omega)
  obtain ⟨span, hspan, span_eq⟩ := Coord.exists_check .multiplication
    (n := half.toInt * (2 : Int32).toInt) (by rw [two]; omega)
  rw [clampAxis, Coord.sub, hroom, Checked.ok_bind, Coord.mul, hspan, Checked.ok_bind]
  split
  case isTrue narrow =>
    obtain ⟨sum, hsum, -⟩ := Coord.exists_check .addition (n := lo.toInt + hi.toInt) (by omega)
    rw [Coord.add, hsum, Checked.ok_bind]
    exact ⟨_, rfl⟩
  case isFalse wide =>
    rw [Int32.le_iff_toInt_le, room_eq, span_eq, two] at wide
    obtain ⟨first, hfirst, first_eq⟩ := Coord.exists_check .addition
      (n := lo.toInt + half.toInt) (by omega)
    obtain ⟨last, hlast, last_eq⟩ := Coord.exists_check .subtraction
      (n := hi.toInt - half.toInt) (by omega)
    -- the limits are not crossed, since the span is less than the room
    have ordered : ¬ last < first := by
      rw [Int32.lt_iff_toInt_lt, first_eq, last_eq]
      omega
    rw [Coord.add, hfirst, Checked.ok_bind, Coord.sub, hlast, Checked.ok_bind, if_neg ordered]
    exact ⟨_, rfl⟩

/-- Clamping to a playable area that is not inside out has no fault, as long as the spans of the box
are coordinates. -/
theorem exists_clamp {m : Map} {area b : Box} (h : m.bounds = .ok area)
    (room : 0 ≤ area.half.x.toInt ∧ 0 ≤ area.half.y.toInt)
    (wide : 0 ≤ b.half.x.toInt ∧ b.half.x.toInt < 1073741824)
    (tall : 0 ≤ b.half.y.toInt ∧ b.half.y.toInt < 1073741824) :
    ∃ fitted, m.clamp b = .ok fitted := by
  obtain ⟨cx, cy⟩ := center_bounds h
  obtain ⟨small_x, small_y⟩ := half_bounds_lt h
  have low_x : area.low.x.toInt = 0 := by rw [Box.toInt_low_x]; omega
  have low_y : area.low.y.toInt = 0 := by rw [Box.toInt_low_y]; omega
  have high_x : 0 ≤ area.high.x.toInt := by rw [Box.toInt_high_x]; omega
  have high_y : 0 ≤ area.high.y.toInt := by rw [Box.toInt_high_y]; omega
  obtain ⟨x, hx⟩ := exists_clampAxis b.center.x low_x high_x wide
  obtain ⟨y, hy⟩ := exists_clampAxis b.center.y low_y high_y tall
  refine ⟨b.moveTo ⟨x, y⟩, ?_⟩
  rw [clamp, h, Checked.ok_bind, clampTo, hx, Checked.ok_bind, hy, Checked.ok_bind]

end Map

end Skirmish
