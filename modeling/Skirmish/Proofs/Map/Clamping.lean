import Skirmish.Proofs.Map.Bounds

/-!
# Clamping as a projection

The playable area spans thirty-two units for each cell.  On an axis where a box is not longer than
the area, the centers at which it lies inside form an interval, and clamping takes the center to the
nearest point of that interval.  On an axis where the box is longer there is no such center, and
clamping takes the middle of the axis.  Each axis is treated by itself.

So a box that lies inside is its own nearest one, and clamping twice is clamping once.

## Main definitions

* `Map.Inside` — a span lies between the ends of an axis.
* `Map.Nearest` — the center that clamping is to find on an axis.
* `Map.Clamped` — what clamping makes of a box.

## Main results

* `Map.nearest_of_clampAxis` — clamping along an axis finds that center.
* `Map.Nearest.eq_of_inside`, `Map.Nearest.idem` — what is inside stays, and so does what has been
  clamped.
* `Map.covers_bounds_iff` — the playable area covers what is inside on both axes.
* `Map.exists_clamped` — clamping to the playable area has no fault and finds the nearest box.
-/

namespace Skirmish

namespace Map

/-! ### One axis -/

/-- A span with a half-extent around a center lies between the ends of an axis. -/
def Inside (length half center : Int) : Prop := 0 ≤ center - half ∧ center + half ≤ length

/-- The center for a span on an axis.  Where the span is not longer than the axis, it lies inside,
and no other center at which it lies inside is nearer to the position that was asked for.  Where it
is longer, the center is the middle of the axis. -/
structure Nearest (length half pos center : Int) : Prop where
  inside : 2 * half ≤ length → Inside length half center
  le_distance : 2 * half ≤ length → ∀ c, Inside length half c →
    (center - pos).natAbs ≤ (c - pos).natAbs
  middle : length < 2 * half → 2 * center = length

namespace Nearest

variable {length half pos center center' : Int}

/-- The span lies inside just when it is not longer than the axis. -/
theorem inside_iff (h : Nearest length half pos center) :
    Inside length half center ↔ 2 * half ≤ length := by
  refine ⟨fun inside => ?_, h.inside⟩
  unfold Inside at inside
  omega

/-- A span that lies inside is not moved. -/
theorem eq_of_inside (h : Nearest length half pos center) (inside : Inside length half pos) :
    center = pos := by
  have fits : 2 * half ≤ length := by
    unfold Inside at inside
    omega
  have le := h.le_distance fits pos inside
  omega

/-- What has been clamped is not moved again. -/
theorem idem (h : Nearest length half pos center) (again : Nearest length half center center') :
    center' = center := by
  by_cases fits : 2 * half ≤ length
  · exact again.eq_of_inside (h.inside fits)
  · have middle := h.middle (Int.not_le.mp fits)
    have middle' := again.middle (Int.not_le.mp fits)
    omega

end Nearest

/-- Clamping along an axis that starts at the origin finds the nearest center. -/
theorem nearest_of_clampAxis {pos half lo hi x : Int32} {length : Int} (hlo : lo.toInt = 0)
    (hhi : hi.toInt = length) (even : 2 ∣ length) (clamped : clampAxis pos half lo hi = .ok x) :
    Nearest length half.toInt pos.toInt x.toInt := by
  have result := of_clampAxis clamped
  rw [hlo, hhi] at result
  rcases result with ⟨narrow, middle⟩ | ⟨wide, kept⟩
  · -- a span as long as the axis lies inside only in the middle
    obtain ⟨m, rfl⟩ := even
    rw [Int.zero_add, Int.mul_tdiv_cancel_left _ (by decide)] at middle
    constructor
    case inside | le_distance => unfold Inside; omega
    case middle => omega
  · constructor
    case inside | le_distance => unfold Inside; omega
    case middle => omega

/-! ### The playable area -/

variable {m : Map} {area b fitted : Box}

/-- The playable area starts at the origin and covers every cell. -/
theorem corners_bounds (wide : m.grid.width.toNat < 2 ^ 26) (tall : m.grid.height.toNat < 2 ^ 26)
    (h : m.bounds = .ok area) :
    (area.low.x.toInt = 0 ∧ area.high.x.toInt = extent m.grid.width) ∧
      area.low.y.toInt = 0 ∧ area.high.y.toInt = extent m.grid.height := by
  obtain ⟨cx, cy⟩ := center_bounds h
  obtain ⟨half_x, half_y⟩ := two_mul_half_bounds wide tall h
  rw [Box.toInt_low_x, Box.toInt_high_x, Box.toInt_low_y, Box.toInt_high_y]
  unfold extent at *
  omega

/-- It covers what lies inside on both axes, and nothing else. -/
theorem covers_bounds_iff (wide : m.grid.width.toNat < 2 ^ 26)
    (tall : m.grid.height.toNat < 2 ^ 26) (h : m.bounds = .ok area) :
    area.Covers b ↔ Inside (extent m.grid.width) b.half.x.toInt b.center.x.toInt ∧
      Inside (extent m.grid.height) b.half.y.toInt b.center.y.toInt := by
  obtain ⟨⟨low_x, high_x⟩, low_y, high_y⟩ := corners_bounds wide tall h
  rw [Box.covers_iff_toInt, low_x, high_x, low_y, high_y, Box.toInt_low_x, Box.toInt_high_x,
    Box.toInt_low_y, Box.toInt_high_y]
  unfold Inside extent
  omega

/-- Clamping to the playable area finds the nearest center on each axis. -/
theorem nearest_of_clamp (wide : m.grid.width.toNat < 2 ^ 26) (tall : m.grid.height.toNat < 2 ^ 26)
    (clamped : m.clamp b = .ok fitted) :
    fitted.half = b.half ∧
      Nearest (extent m.grid.width) b.half.x.toInt b.center.x.toInt fitted.center.x.toInt ∧
      Nearest (extent m.grid.height) b.half.y.toInt b.center.y.toInt fitted.center.y.toInt := by
  simp only [clamp, clampTo, Checked.bind_eq_ok_iff, Except.ok.injEq] at clamped
  obtain ⟨area, bounds, x, hx, y, hy, rfl⟩ := clamped
  obtain ⟨⟨low_x, high_x⟩, low_y, high_y⟩ := corners_bounds wide tall bounds
  have even (cells : UInt32) : 2 ∣ extent cells := ⟨16 * cells.toNat, by unfold extent; omega⟩
  exact ⟨rfl, nearest_of_clampAxis low_x high_x (even _) hx,
    nearest_of_clampAxis low_y high_y (even _) hy⟩

/-- What clamping makes of a box. -/
structure Clamped (m : Map) (area b fitted : Box) : Prop where
  half : fitted.half = b.half
  x : Nearest (extent m.grid.width) b.half.x.toInt b.center.x.toInt fitted.center.x.toInt
  y : Nearest (extent m.grid.height) b.half.y.toInt b.center.y.toInt fitted.center.y.toInt
  /-- The result lies inside just when the box fits on both axes. -/
  covers_iff : area.Covers fitted ↔
    2 * b.half.x.toInt ≤ extent m.grid.width ∧ 2 * b.half.y.toInt ≤ extent m.grid.height
  /-- A box that lies inside stays where it is. -/
  eq_of_covers : area.Covers b → fitted = b
  idem : m.clamp fitted = .ok fitted

/-- On a map of less than `2 ^ 26` columns and rows, clamping a box whose extents are coordinates has
no fault.  The result is the nearest box inside the playable area, on each axis where there is
one. -/
theorem exists_clamped (m : Map) (b : Box)
    (wide : 1 ≤ m.grid.width.toNat ∧ m.grid.width.toNat < 2 ^ 26)
    (tall : 1 ≤ m.grid.height.toNat ∧ m.grid.height.toNat < 2 ^ 26)
    (long : 0 ≤ b.half.x.toInt ∧ b.half.x.toInt ≤ 1073741823)
    (high : 0 ≤ b.half.y.toInt ∧ b.half.y.toInt ≤ 1073741823) :
    ∃ area fitted, m.bounds = .ok area ∧ m.clamp b = .ok fitted ∧ m.Clamped area b fitted := by
  obtain ⟨area, bounds, room⟩ := exists_bounds wide.2 tall.2
  have clampable {c : Box} (half : c.half = b.half) : ∃ fitted, m.clamp c = .ok fitted := by
    refine exists_clamp bounds room ?_ ?_ <;> rw [half] <;> omega
  obtain ⟨fitted, clamped⟩ := clampable rfl
  obtain ⟨half, x, y⟩ := nearest_of_clamp wide.2 tall.2 clamped
  refine ⟨area, fitted, bounds, clamped, half, x, y, ?_, fun covers => ?_, ?_⟩
  · rw [covers_bounds_iff wide.2 tall.2 bounds, half, x.inside_iff, y.inside_iff]
  · obtain ⟨inside_x, inside_y⟩ := (covers_bounds_iff wide.2 tall.2 bounds).mp covers
    exact Box.eq_of_toInt_eq half (x.eq_of_inside inside_x) (y.eq_of_inside inside_y)
  · obtain ⟨again, clamped'⟩ := clampable half
    obtain ⟨half', x', y'⟩ := nearest_of_clamp wide.2 tall.2 clamped'
    rw [half] at x' y'
    rw [clamped', Box.eq_of_toInt_eq half' (x.idem x') (y.idem y')]

/-- A plank that is too long for a map of four columns and two rows, far beyond its corner. -/
def plank : Box := .centered (-2147483648) 2147483647 8 40

theorem exists_clamped_plank : ∃ area fitted,
    bounds ⟨.blank 4 2, .closed⟩ = .ok area ∧ clamp ⟨.blank 4 2, .closed⟩ plank = .ok fitted ∧
      fitted = .centered 8 32 8 40 ∧ Clamped ⟨.blank 4 2, .closed⟩ area plank fitted := by
  obtain ⟨area, fitted, bounds, clamped, h⟩ := exists_clamped ⟨.blank 4 2, .closed⟩ plank
    (by decide) (by decide) (by decide) (by decide)
  have place : (clamp ⟨.blank 4 2, .closed⟩ plank).toOption = some (.centered 8 32 8 40) := by
    decide +kernel
  rw [clamped] at place
  exact ⟨area, fitted, bounds, clamped, Option.some.inj place, h⟩

end Map

end Skirmish
