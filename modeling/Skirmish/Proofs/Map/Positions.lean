import Skirmish.Proofs.Map.Cells
import Skirmish.Proofs.Map.Clamping

/-!
# Cells and positions

The cells tile the playable area, thirty-two units a side, and a position outside falls into the
cell of the nearest position inside.  Columns and rows are found independently, by the same rule:
the coordinate, raised to zero, is divided by the length of a cell, and the last index is kept for
what lies beyond.

## Main definitions

* `Box.IsNearest` — a point of a box that is nearest to a position on each axis.
* `Map.Tiles` — what the cells of a map have to do with the positions of its playable area.

## Main results

* `Map.mem_bounds_iff` — the positions of the playable area.
* `Map.exists_isNearest` — every position has a nearest one in the playable area.
* `Map.exists_tiles` — the cells tile the playable area.
-/

namespace Skirmish

/-- A point of a box that is nearest to a position on each axis. -/
structure Box.IsNearest (b : Box) (p q : Point) : Prop where
  mem : q ∈ b
  le_distance_x : ∀ r ∈ b, (q.x.toInt - p.x.toInt).natAbs ≤ (r.x.toInt - p.x.toInt).natAbs
  le_distance_y : ∀ r ∈ b, (q.y.toInt - p.y.toInt).natAbs ≤ (r.y.toInt - p.y.toInt).natAbs

namespace Map

variable {m : Map} {area : Box} {p q : Point}

/-! ### The playable area -/

/-- The positions of the playable area. -/
theorem mem_bounds_iff (wide : m.grid.width.toNat < 2 ^ 26) (tall : m.grid.height.toNat < 2 ^ 26)
    (h : m.bounds = .ok area) : p ∈ area ↔
      (0 ≤ p.x.toInt ∧ p.x.toInt < 32 * m.grid.width.toNat) ∧
        0 ≤ p.y.toInt ∧ p.y.toInt < 32 * m.grid.height.toNat := by
  obtain ⟨⟨low_x, high_x⟩, low_y, high_y⟩ := corners_bounds wide tall h
  rw [Box.mem_iff_toInt, low_x, high_x, low_y, high_y, extent, extent, and_assoc]

/-- A coordinate of an axis with cells on it that is nearest to a given one. -/
private theorem exists_nearest_coordinate (c : Int32) {cells : UInt32}
    (some : 1 ≤ cells.toNat ∧ cells.toNat < 2 ^ 26) :
    ∃ d : Int32, (0 ≤ d.toInt ∧ d.toInt < 32 * cells.toNat) ∧
      ∀ e : Int, 0 ≤ e → e < 32 * cells.toNat →
        (d.toInt - c.toInt).natAbs ≤ (e - c.toInt).natAbs := by
  have exact : (Int32.ofInt (max 0 (min c.toInt (32 * cells.toNat - 1)))).toInt
      = max 0 (min c.toInt (32 * cells.toNat - 1)) :=
    Coord.toInt_ofInt (by rw [Coord.inRange_iff]; omega)
  exact ⟨_, by rw [exact]; omega, fun e lower upper => by rw [exact]; omega⟩

/-- Every position has a nearest one in the playable area. -/
theorem exists_isNearest (wide : 1 ≤ m.grid.width.toNat ∧ m.grid.width.toNat < 2 ^ 26)
    (tall : 1 ≤ m.grid.height.toNat ∧ m.grid.height.toNat < 2 ^ 26) (h : m.bounds = .ok area)
    (p : Point) : ∃ q, area.IsNearest p q := by
  have mem {r : Point} := mem_bounds_iff (p := r) wide.2 tall.2 h
  obtain ⟨x, inside_x, nearest_x⟩ := exists_nearest_coordinate p.x wide
  obtain ⟨y, inside_y, nearest_y⟩ := exists_nearest_coordinate p.y tall
  refine ⟨⟨x, y⟩, mem.mpr ⟨inside_x, inside_y⟩, fun r hr => ?_, fun r hr => ?_⟩
  · exact nearest_x _ (mem.mp hr).1.1 (mem.mp hr).1.2
  · exact nearest_y _ (mem.mp hr).2.1 (mem.mp hr).2.2

/-! ### Cells and positions -/

/-- What the cells of a map have to do with the positions of its playable area. -/
structure Tiles (m : Map) (area : Box) : Prop where
  /-- The center of a cell falls into it. -/
  center : ∀ col row, col < m.grid.width → row < m.grid.height →
    ∃ p, cellCenter col row = .ok p ∧ m.cellOf p = (col, row)
  /-- A position of the area lies between the edges of the cell that it falls into. -/
  between : ∀ p ∈ area,
    (32 * (m.cellOf p).1.toNat ≤ p.x.toInt ∧ p.x.toInt < 32 * (m.cellOf p).1.toNat + 32) ∧
      32 * (m.cellOf p).2.toNat ≤ p.y.toInt ∧ p.y.toInt < 32 * (m.cellOf p).2.toNat + 32
  /-- Every position falls into a cell of the grid, which has a terrain. -/
  inside : ∀ p, ((m.cellOf p).1 < m.grid.width ∧ (m.cellOf p).2 < m.grid.height) ∧
    ∃ terrain, m.grid.terrainAt? (m.cellOf p).1 (m.cellOf p).2 = some terrain
  /-- It is the cell of the nearest position of the area. -/
  nearest : ∀ p, (∃ q, area.IsNearest p q) ∧ ∀ q, area.IsNearest p q → m.cellOf p = m.cellOf q
  /-- A position farther to the right falls into no column farther to the left. -/
  mono_x : ∀ p q : Point, p.x ≤ q.x → (m.cellOf p).1 ≤ (m.cellOf q).1
  /-- A position farther up falls into no row farther down. -/
  mono_y : ∀ p q : Point, p.y ≤ q.y → (m.cellOf p).2 ≤ (m.cellOf q).2

/-- An index is the one that a coordinate falls into if it is so as a number. -/
private theorem cellIndex_eq {cells i : UInt32} (positive : 0 < cells.toNat) {c : Int32}
    (h : min (max c.toInt 0 / 32) (cells.toNat - 1) = i.toNat) : cellIndex cells c = i := by
  rw [← UInt32.toNat_inj, ← Int.ofNat_inj, toNat_cellIndex positive]
  exact h

private theorem cellIndex_mono {cells : UInt32} (positive : 0 < cells.toNat) {c d : Int32}
    (h : c ≤ d) : cellIndex cells c ≤ cellIndex cells d := by
  have left := toNat_cellIndex positive c
  have right := toNat_cellIndex positive d
  rw [Int32.le_iff_toInt_le] at h
  rw [UInt32.le_iff_toNat_le]
  omega

/-- The coordinate of an axis that is nearest to a given one has the same index. -/
private theorem cellIndex_nearest {cells : UInt32} (positive : 0 < cells.toNat) {c d : Int32}
    (inside : 0 ≤ d.toInt ∧ d.toInt < 32 * cells.toNat)
    (nearest : ∀ e : Int, 0 ≤ e → e < 32 * cells.toNat →
      (d.toInt - c.toInt).natAbs ≤ (e - c.toInt).natAbs) :
    cellIndex cells c = cellIndex cells d := by
  have index := toNat_cellIndex positive d
  have own := nearest (max 0 (min c.toInt (32 * cells.toNat - 1))) (by omega) (by omega)
  exact cellIndex_eq positive (by omega)

/-- On a map of less than `2 ^ 26` columns and rows the cells tile the playable area. -/
theorem exists_tiles (m : Map) (wide : 1 ≤ m.grid.width.toNat ∧ m.grid.width.toNat < 2 ^ 26)
    (tall : 1 ≤ m.grid.height.toNat ∧ m.grid.height.toNat < 2 ^ 26) :
    ∃ area, m.bounds = .ok area ∧ m.Tiles area := by
  obtain ⟨area, bounds, -⟩ := exists_bounds wide.2 tall.2
  have mem {r : Point} := mem_bounds_iff (p := r) wide.2 tall.2 bounds
  refine ⟨area, bounds, ?center, ?between, ?inside, ?nearest, ?mono_x, ?mono_y⟩
  case center =>
    intro col row hcol hrow
    rw [UInt32.lt_iff_toNat_lt] at hcol hrow
    have small : col.toNat < 2 ^ 26 ∧ row.toNat < 2 ^ 26 := by omega
    obtain ⟨p, center, hx, hy⟩ := exists_cellCenter small.1 small.2
    exact ⟨p, center, congrArg₂ Prod.mk (cellIndex_eq wide.1 (by omega))
      (cellIndex_eq tall.1 (by omega))⟩
  case between =>
    intro p inside
    have col := toNat_cellIndex wide.1 p.x
    have row := toNat_cellIndex tall.1 p.y
    rw [mem] at inside
    simp only [cellOf]
    omega
  case inside =>
    intro p
    have lt := cellOf_lt wide.1 tall.1 p
    exact ⟨lt, Grid.exists_terrainAt? lt.1 lt.2⟩
  case nearest =>
    refine fun p => ⟨exists_isNearest wide tall bounds p, fun q nearest => ?_⟩
    obtain ⟨inside_x, inside_y⟩ := mem.mp nearest.mem
    have exact {e : Int} (lower : 0 ≤ e) (upper : e < 2147483648) : (Int32.ofInt e).toInt = e :=
      Coord.toInt_ofInt (by rw [Coord.inRange_iff]; omega)
    -- each axis is compared along the line through the nearest position
    refine congrArg₂ Prod.mk (cellIndex_nearest wide.1 inside_x fun e lower upper => ?_)
      (cellIndex_nearest tall.1 inside_y fun e lower upper => ?_)
    · have x := exact lower (by omega)
      have le := nearest.le_distance_x ⟨.ofInt e, q.y⟩ (mem.mpr ⟨by rw [x]; omega, inside_y⟩)
      rwa [x] at le
    · have y := exact lower (by omega)
      have le := nearest.le_distance_y ⟨q.x, .ofInt e⟩ (mem.mpr ⟨inside_x, by rw [y]; omega⟩)
      rwa [y] at le
  case mono_x => exact fun p q le => cellIndex_mono wide.1 le
  case mono_y => exact fun p q le => cellIndex_mono tall.1 le

/-- A meadow of four columns and two rows, over which the playable area is as long. -/
theorem exists_tiles_meadow : ∃ area, bounds ⟨.blank 4 2, .closed⟩ = .ok area ∧
    area = .centered 64 32 64 32 ∧ Tiles ⟨.blank 4 2, .closed⟩ area := by
  obtain ⟨area, bounds, tiles⟩ := exists_tiles ⟨.blank 4 2, .closed⟩ (by decide) (by decide)
  have place : (Map.bounds ⟨.blank 4 2, .closed⟩).toOption = some (.centered 64 32 64 32) := by
    decide +kernel
  rw [bounds] at place
  exact ⟨area, bounds, Option.some.inj place, tiles⟩

end Map

end Skirmish
