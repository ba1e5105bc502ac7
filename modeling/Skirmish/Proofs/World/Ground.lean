import Skirmish.Proofs.Map.Cells
import Skirmish.World.Founding

/-!
# Town ground

Before a town is founded, the ground within six cells of the center of the map becomes grass.
Nothing that was grass becomes anything else, so every cell that is close to the center has grass in
the end.

## Main definitions

* `squaredDistance`, `Map.fromCenter` — distances, squared.
* `Map.HasGreen` — a map with grass around its center.
* `Map.HasSize` — the maps of a size class.

## Main results

* `World.toInt_of_distanceSquared` — distances are computed exactly.
* `World.greener_clearCell` — clearing a cell takes no grass away.
* `World.hasGreen_of_clearTownGround` — all ground close to the center becomes grass.
-/

namespace Skirmish

/-! ### Distances -/

/-- The square of the distance between two positions. -/
def squaredDistance (x y x' y' : Int) : Int := (x - x') * (x - x') + (y - y') * (y - y')

theorem Coord.toInt_of_square {a b : Int32} (h : Coord.square a = .ok b) :
    b.toInt = a.toInt * a.toInt := check_eq_ok_iff.mp h

/-- A distance that can be computed is exact. -/
theorem World.toInt_of_distanceSquared {p q : Point} {d : Int32}
    (h : World.distanceSquared p q = .ok d) :
    d.toInt = squaredDistance p.x.toInt p.y.toInt q.x.toInt q.y.toInt := by
  simp only [World.distanceSquared, Coord.square, Coord.sub, Coord.mul, Coord.add,
    Checked.bind_eq_ok_iff, Coord.check_eq_ok_iff] at h
  obtain ⟨dx, hdx, dx2, hdx2, dy, hdy, dy2, hdy2, hd⟩ := h
  rw [hd, hdx2, hdy2, hdx, hdy, squaredDistance]

/-! ### Maps of a size class -/

namespace Map

/-- The square of the distance of a position from the center of a map. -/
def fromCenter (m : Map) (x y : Int) : Int :=
  squaredDistance x y (16 * m.grid.width.toNat) (16 * m.grid.height.toNat)

/-- Every cell whose center is closer than six cells to the center of the map has grass. -/
def HasGreen (m : Map) : Prop :=
  ∀ col row, col < m.grid.width → row < m.grid.height →
    m.fromCenter (32 * col.toNat + 16) (32 * row.toNat + 16) < (6 * 32) * (6 * 32) →
      m.grid.terrainAt? col row = some .grass

/-- A map whose grid has the size of a class. -/
structure HasSize (m : Map) (size : SizeClass) : Prop where
  width : m.grid.width = size.dimension
  height : m.grid.height = size.dimension

variable {m m' : Map} {size : SizeClass} {area b : Box}

theorem hasSize_resize (m : Map) (size : SizeClass) : (m.resize size).HasSize size := ⟨rfl, rfl⟩

namespace HasSize

theorem congr (h : m.HasSize size) (same : m.grid.SameSize m'.grid) : m'.HasSize size :=
  ⟨same.1.trans h.width, same.2.trans h.height⟩

theorem between (h : m.HasSize size) :
    (24 ≤ m.grid.width.toNat ∧ m.grid.width.toNat ≤ 220) ∧
      24 ≤ m.grid.height.toNat ∧ m.grid.height.toNat ≤ 220 := by
  rw [h.width, h.height]
  cases size <;> decide

theorem wide (h : m.HasSize size) : m.grid.width.toNat < 2 ^ 26 := by
  have := h.between
  omega

theorem tall (h : m.HasSize size) : m.grid.height.toNat < 2 ^ 26 := by
  have := h.between
  omega

/-- What takes no more than three cells is not longer than the map. -/
theorem fits (h : m.HasSize size) (small : b.half.x.toInt ≤ 48 ∧ b.half.y.toInt ≤ 48) :
    2 * b.half.x.toInt ≤ extent m.grid.width ∧ 2 * b.half.y.toInt ≤ extent m.grid.height := by
  have := h.between
  unfold extent
  omega

/-- The center of the playable area is the center of the map. -/
theorem center (h : m.HasSize size) (bounds : m.bounds = .ok area) :
    area.center.x.toInt = 16 * m.grid.width.toNat ∧
      area.center.y.toInt = 16 * m.grid.height.toNat := by
  obtain ⟨cx, cy⟩ := center_bounds bounds
  obtain ⟨hx, hy⟩ := two_mul_half_bounds h.wide h.tall bounds
  unfold extent at hx hy
  omega

theorem fromCenter_eq (h : m.HasSize size) (bounds : m.bounds = .ok area) (x y : Int) :
    m.fromCenter x y = squaredDistance x y area.center.x.toInt area.center.y.toInt := by
  obtain ⟨hx, hy⟩ := h.center bounds
  rw [fromCenter, hx, hy]

end HasSize

end Map

namespace World

/-! ### The ground -/

section

variable {center : Point} {g g' : Grid} {col row : UInt32}

/-- All that clearing a cell can do. -/
theorem of_clearCell (h : clearCell center g (col, row) = .ok g') :
    ∃ middle, cellCenter col row = .ok middle ∧
      g' = if squaredDistance middle.x.toInt middle.y.toInt center.x.toInt center.y.toInt
          < (6 * 32) * (6 * 32) then (g.setTerrain? col row .grass).getD g else g := by
  simp only [clearCell, Checked.bind_eq_ok_iff] at h
  obtain ⟨middle, place, distance, hdistance, radius, hradius, h⟩ := h
  refine ⟨middle, place, ?_⟩
  have side : townRadius.toInt = 6 * 32 := by decide
  have exact := Coord.toInt_of_square hradius
  rw [side] at exact
  rw [← toInt_of_distanceSquared hdistance, ← exact]
  simp only [Int32.lt_iff_toInt_lt] at h
  split at h
  case isTrue close => rw [if_pos close, Except.ok.inj h]
  case isFalse far => rw [if_neg far, Except.ok.inj h]

theorem greener_clearCell {cell : UInt32 × UInt32} (h : clearCell center g cell = .ok g') :
    g.Greener g' := by
  obtain ⟨middle, -, rfl⟩ := of_clearCell h
  split
  case isTrue =>
    cases made : g.setTerrain? cell.1 cell.2 .grass with
    | none => exact .refl g
    | some g' => exact Grid.greener_setTerrain? made
  case isFalse => exact .refl g

/-- A cell inside the grid whose center is close is cleared. -/
theorem grass_of_clearCell (h : clearCell center g (col, row) = .ok g') (hcol : col < g.width)
    (hrow : row < g.height) (small : col.toNat < 2 ^ 26 ∧ row.toNat < 2 ^ 26)
    (close : squaredDistance (32 * col.toNat + 16) (32 * row.toNat + 16) center.x.toInt
      center.y.toInt < (6 * 32) * (6 * 32)) : g'.terrainAt? col row = some .grass := by
  obtain ⟨middle, place, rfl⟩ := of_clearCell h
  obtain ⟨p, place', x, y⟩ := Map.exists_cellCenter small.1 small.2
  obtain rfl := Except.ok.inj (place.symm.trans place')
  obtain ⟨g', made, grass⟩ := Grid.terrainAt?_setTerrain? hcol hrow .grass
  rw [x, y, if_pos close, made]
  exact grass

theorem greener_clear {cells : List (UInt32 × UInt32)}
    (h : cells.foldlM (clearCell center) g = .ok g') : g.Greener g' :=
  Checked.foldlM_induction (P := g.Greener)
    (fun greener cleared => greener.trans (greener_clearCell cleared)) (.refl g) h

/-- Every cell is cleared when its turn comes, and grass stays grass. -/
theorem grass_of_clear {cells : List (UInt32 × UInt32)}
    (h : cells.foldlM (clearCell center) g = .ok g') (mem : (col, row) ∈ cells)
    (hcol : col < g.width) (hrow : row < g.height)
    (small : col.toNat < 2 ^ 26 ∧ row.toNat < 2 ^ 26)
    (close : squaredDistance (32 * col.toNat + 16) (32 * row.toNat + 16) center.x.toInt
      center.y.toInt < (6 * 32) * (6 * 32)) : g'.terrainAt? col row = some .grass := by
  induction cells generalizing g with
  | nil => cases mem
  | cons cell cells ih =>
    rw [List.foldlM_cons, Checked.bind_eq_ok_iff] at h
    obtain ⟨g₁, cleared, rest⟩ := h
    rcases List.mem_cons.mp mem with rfl | mem
    · exact (greener_clear rest).grass col row (grass_of_clearCell cleared hcol hrow small close)
    · have same := (greener_clearCell cleared).sameSize
      exact ih rest mem (same.1 ▸ hcol) (same.2 ▸ hrow)

end

variable {w w' : World} {size : SizeClass} {area : Box}

/-- Only the map changes: it keeps its size, and all ground close to its center becomes grass. -/
theorem hasGreen_of_clearTownGround (h : w.map.HasSize size) (bounds : w.map.bounds = .ok area)
    (cleared : w.clearTownGround area.center = .ok w') :
    ∃ map, w' = { w with map } ∧ w.map.grid.SameSize map.grid ∧ map.HasGreen := by
  simp only [clearTownGround, Checked.bind_eq_ok_iff, Except.ok.injEq] at cleared
  obtain ⟨grid, cleared, rfl⟩ := cleared
  have same : w.map.grid.SameSize grid := (greener_clear cleared).sameSize
  refine ⟨{ w.map with grid }, rfl, same, fun col row hcol hrow close => ?_⟩
  have close : w.map.fromCenter (32 * col.toNat + 16) (32 * row.toNat + 16)
      < (6 * 32) * (6 * 32) := by
    rwa [Map.fromCenter, ← same.1, ← same.2]
  rw [h.fromCenter_eq bounds] at close
  have hcol : col < w.map.grid.width := same.1 ▸ hcol
  have hrow : row < w.map.grid.height := same.2 ▸ hrow
  have wide := h.wide
  have tall := h.tall
  have lt_col := UInt32.lt_iff_toNat_lt.mp hcol
  have lt_row := UInt32.lt_iff_toNat_lt.mp hrow
  exact grass_of_clear cleared (Grid.mem_cells hcol hrow) hcol hrow (by omega) close

end World

end Skirmish
