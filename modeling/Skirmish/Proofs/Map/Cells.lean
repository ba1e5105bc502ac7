import Skirmish.Proofs.Map.Bounds

/-!
# Terrain cells

Every position falls into a cell of the grid, positions outside into the nearest one, and every cell
has a terrain.  On a map that is not too large the center of a cell is half a cell away from its
edges.

## Main definitions

* `Grid.SameSize` — two grids with as many columns and rows.
* `Grid.Greener` — a grid of the same size whose grass is still grass.

## Main results

* `Grid.mem_cells` — the cells of a grid are listed.
* `Grid.exists_terrainAt?` — every cell has a terrain.
* `Grid.greener_setTerrain?`, `Grid.terrainAt?_setTerrain?` — a cell made grass.
* `Map.exists_cellCenter` — the center of a cell.
* `Map.toNat_cellIndex` — the index that a coordinate falls into.
* `Map.cellOf_lt` — a position falls into a cell of the grid.
-/

namespace Skirmish

namespace Grid

variable {g g₁ g' : Grid} {col row col' row' : UInt32} {terrain : Terrain}

/-! ### The grid -/

/-- Two grids have as many columns and as many rows. -/
def SameSize (g g' : Grid) : Prop := g'.width = g.width ∧ g'.height = g.height

theorem SameSize.trans (h₁ : g.SameSize g₁) (h : g₁.SameSize g') : g.SameSize g' :=
  ⟨h.1.trans h₁.1, h.2.trans h₁.2⟩

theorem sameSize_setTerrain? (h : g.setTerrain? col row terrain = some g') : g.SameSize g' := by
  obtain ⟨i, -, rfl⟩ := Option.map_eq_some_iff.mp h
  exact ⟨rfl, rfl⟩

/-- Every cell inside the grid is listed. -/
theorem mem_cells (hcol : col < g.width) (hrow : row < g.height) : (col, row) ∈ g.cells := by
  refine List.mem_flatMap.mpr ⟨row.toNat, List.mem_range.mpr (UInt32.lt_iff_toNat_lt.mp hrow), ?_⟩
  refine List.mem_map.mpr ⟨col.toNat, List.mem_range.mpr (UInt32.lt_iff_toNat_lt.mp hcol), ?_⟩
  rw [UInt32.ofNat_toNat, UInt32.ofNat_toNat]

/-- Every listed cell is inside the grid. -/
theorem lt_of_mem_cells (mem : (col, row) ∈ g.cells) : col < g.width ∧ row < g.height := by
  obtain ⟨r, hr, mem⟩ := List.mem_flatMap.mp mem
  obtain ⟨c, hc, eq⟩ := List.mem_map.mp mem
  obtain ⟨rfl, rfl⟩ := Prod.mk.inj eq
  have lt {n : Nat} {bound : UInt32} (h : n ∈ List.range bound.toNat) :
      UInt32.ofNat n < bound := by
    have small := List.mem_range.mp h
    rw [UInt32.lt_iff_toNat_lt, UInt32.toNat_ofNat_of_lt' (Nat.lt_trans small bound.toNat_lt)]
    exact small
  exact ⟨lt hc, lt hr⟩

/-- A cell inside the grid has its place in the buffers. -/
theorem lt_of_index? {i : Nat} (h : g.index? col row = some i) :
    i < g.width.toNat * g.height.toNat := by
  unfold index? at h
  split at h
  case isTrue inside =>
    obtain rfl := Option.some.inj h
    have hcol := UInt32.lt_iff_toNat_lt.mp inside.1
    have hrow : row.toNat + 1 ≤ g.height.toNat := UInt32.lt_iff_toNat_lt.mp inside.2
    have rows := Nat.mul_le_mul_left g.width.toNat hrow
    rw [Nat.mul_add, Nat.mul_comm g.width.toNat row.toNat] at rows
    omega
  case isFalse => cases h

/-- Every cell inside the grid has a terrain. -/
theorem exists_terrainAt? (hcol : col < g.width) (hrow : row < g.height) :
    ∃ terrain, g.terrainAt? col row = some terrain := by
  have index : g.index? col row = some (row.toNat * g.width.toNat + col.toNat) :=
    if_pos ⟨hcol, hrow⟩
  have lt := lt_of_index? index
  rw [← g.terrain_size] at lt
  exact ⟨_, by rw [terrainAt?, index, Option.bind_some, Array.getElem?_eq_getElem lt]⟩

/-! ### Grass -/

/-- A grid of the same size in which every cell with grass still has grass. -/
structure Greener (g g' : Grid) : Prop where
  sameSize : g.SameSize g'
  grass : ∀ col row, g.terrainAt? col row = some .grass → g'.terrainAt? col row = some .grass

theorem Greener.refl (g : Grid) : g.Greener g := ⟨⟨rfl, rfl⟩, fun _ _ => id⟩

theorem Greener.trans (h₁ : g.Greener g₁) (h : g₁.Greener g') : g.Greener g' :=
  ⟨h₁.sameSize.trans h.sameSize, fun col row grass => h.grass col row (h₁.grass col row grass)⟩

/-- A cell that is made grass takes no grass away. -/
theorem greener_setTerrain? (h : g.setTerrain? col row .grass = some g') : g.Greener g' := by
  refine ⟨sameSize_setTerrain? h, fun col' row' grass => ?_⟩
  obtain ⟨i, -, rfl⟩ := Option.map_eq_some_iff.mp h
  obtain ⟨j, index, grass⟩ := Option.bind_eq_some_iff.mp grass
  have index : (g.writeTerrain i .grass).index? col' row' = some j := index
  rw [terrainAt?, index, Option.bind_some, writeTerrain, Array.getElem?_setIfInBounds]
  split
  case isTrue eq =>
    have lt := lt_of_index? index
    rw [if_pos (by rw [eq, g.terrain_size]; exact lt)]
  case isFalse => exact grass

/-- A cell inside the grid can be given a terrain, and then has it. -/
theorem terrainAt?_setTerrain? (hcol : col < g.width) (hrow : row < g.height) (terrain : Terrain) :
    ∃ g', g.setTerrain? col row terrain = some g' ∧ g'.terrainAt? col row = some terrain := by
  have index : g.index? col row = some (row.toNat * g.width.toNat + col.toNat) :=
    if_pos ⟨hcol, hrow⟩
  have lt := lt_of_index? index
  rw [← g.terrain_size] at lt
  refine ⟨_, by rw [setTerrain?, index, Option.map_some], ?_⟩
  have index' {i : Nat} : (g.writeTerrain i terrain).index? col row
      = some (row.toNat * g.width.toNat + col.toNat) := index
  rw [terrainAt?, index', Option.bind_some, writeTerrain,
    Array.getElem?_setIfInBounds_self_of_lt lt]

end Grid

namespace Map

/-! ### Positions -/

/-- The center of a cell that is not too far away. -/
theorem exists_cellCenter {col row : UInt32} (hcol : col.toNat < 2 ^ 26)
    (hrow : row.toNat < 2 ^ 26) : ∃ p, cellCenter col row = .ok p ∧
      p.x.toInt = 32 * col.toNat + 16 ∧ p.y.toInt = 32 * row.toNat + 16 := by
  have half : (cellSize / 2).toInt = 16 := by decide
  have middle {cells : UInt32} {edge : Int32} (small : cells.toNat < 2 ^ 26)
      (exact : edge.toInt = extent cells) :
      ∃ c, Coord.add edge (cellSize / 2) = .ok c ∧ c.toInt = 32 * cells.toNat + 16 := by
    unfold extent at exact
    obtain ⟨c, sum, hc⟩ := Coord.exists_check .addition
      (n := edge.toInt + (cellSize / 2).toInt) (by rw [half, exact]; omega)
    exact ⟨c, sum, by rw [hc, half, exact]⟩
  obtain ⟨left, hleft, left_eq⟩ := exists_edge hcol
  obtain ⟨bottom, hbottom, bottom_eq⟩ := exists_edge hrow
  obtain ⟨x, hx, x_eq⟩ := middle hcol left_eq
  obtain ⟨y, hy, y_eq⟩ := middle hrow bottom_eq
  refine ⟨⟨x, y⟩, ?_, x_eq, y_eq⟩
  rw [cellCenter, hleft, Checked.ok_bind, hx, Checked.ok_bind, hbottom, Checked.ok_bind, hy,
    Checked.ok_bind]

/-- A coordinate that is not negative is the same number as an index. -/
private theorem toNat_toUInt32 {a : Int32} (h : 0 ≤ a.toInt) :
    (a.toUInt32.toNat : Int) = a.toInt := by
  have word : a.toInt = _ := BitVec.toInt_eq_toNat_cond a.toBitVec
  have small : a.toBitVec.toNat < 2 ^ 32 := a.toBitVec.isLt
  have same : a.toUInt32.toNat = a.toBitVec.toNat := rfl
  rw [same]
  split at word <;> omega

private theorem toInt_raise (c : Int32) : (if c < 0 then 0 else c).toInt = max c.toInt 0 := by
  have zero := Int32.toInt_zero
  split
  case isTrue below =>
    rw [Int32.lt_iff_toInt_lt] at below
    omega
  case isFalse above =>
    rw [Int32.lt_iff_toInt_lt] at above
    omega

private theorem toNat_lastIndex {dimension : UInt32} (positive : 0 < dimension.toNat) :
    (lastIndex dimension).toNat = dimension.toNat - 1 := by
  have ne : dimension ≠ 0 := by
    rintro rfl
    exact Nat.lt_irrefl 0 positive
  have one_le : (1 : UInt32) ≤ dimension := UInt32.le_iff_toNat_le.mpr positive
  rw [lastIndex, if_neg ne, UInt32.toNat_sub_of_le _ _ one_le]
  rfl

/-- The index that a coordinate falls into: the lengths of a cell between the origin and the
coordinate, raised to zero, or the last index. -/
theorem toNat_cellIndex {dimension : UInt32} (positive : 0 < dimension.toNat) (c : Int32) :
    ((cellIndex dimension c).toNat : Int) = min (max c.toInt 0 / 32) (dimension.toNat - 1) := by
  have quotient : ((if c < 0 then 0 else c) / cellSize).toInt = max c.toInt 0 / 32 := by
    rw [Int32.toInt_div_of_ne_right _ _ (by decide), toInt_raise, toInt_cellSize,
      Int.tdiv_eq_ediv_of_nonneg (by omega)]
  have index := toNat_toUInt32 (a := (if c < 0 then 0 else c) / cellSize) (by omega)
  have last := toNat_lastIndex positive
  unfold cellIndex
  dsimp only
  generalize (Int32.toUInt32 _) = i at index
  split
  case isTrue le =>
    rw [UInt32.le_iff_toNat_le] at le
    omega
  case isFalse gt =>
    rw [UInt32.le_iff_toNat_le] at gt
    omega

theorem cellIndex_lt {dimension : UInt32} (positive : 0 < dimension.toNat) (coordinate : Int32) :
    cellIndex dimension coordinate < dimension := by
  have index := toNat_cellIndex positive coordinate
  rw [UInt32.lt_iff_toNat_lt]
  omega

/-- A position falls into a cell of the grid. -/
theorem cellOf_lt {m : Map} (wide : 0 < m.grid.width.toNat) (tall : 0 < m.grid.height.toNat)
    (p : Point) : (m.cellOf p).1 < m.grid.width ∧ (m.cellOf p).2 < m.grid.height :=
  ⟨cellIndex_lt wide p.x, cellIndex_lt tall p.y⟩

end Map

end Skirmish
