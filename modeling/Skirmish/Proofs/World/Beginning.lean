import Skirmish.Proofs.World.Scattering

/-!
# Matches that begin

Founding a match has no fault as long as the ids suffice for all who are to live there, the rows of
villagers end inside the coordinate range, and no house lies absurdly far away.  Every map of a size
class is small enough for its distances to be squared, and large enough for places to be drawn.

## Main definitions

* `Means.IsModerate` — directions in which so many houses can be built.

## Main results

* `World.exists_distanceSquared` — distances that can be computed.
* `World.Playable.exists_foundTown` — a town can be founded.
* `World.Playable.exists_scatter` — resource nodes can be scattered.
* `World.exists_generateBy` — a match can be founded.
-/

namespace Skirmish

/-- A cosine or a sine that does not lead absurdly far away. -/
def Means.IsNear (part : Float32) : Prop :=
  -1073741824 ≤ (World.houseOffset part).toInt ∧ (World.houseOffset part).toInt ≤ 1073741824

instance (part : Float32) : Decidable (Means.IsNear part) :=
  inferInstanceAs (Decidable (_ ∧ _))

/-- Directions in which so many houses can be built. -/
def Means.IsModerate {σ : Type} (means : Means σ) (n : Nat) : Prop :=
  ∀ i < n, IsNear (means.cos (World.houseAngle n i)) ∧ IsNear (means.sin (World.houseAngle n i))

namespace World

variable {σ : Type} {means : Means σ} {w w' : World} {size : SizeClass} {area : Box} {issued : Nat}

/-! ### Distances -/

/-- The square of a distance that is not too large is less than half of the greatest coordinate. -/
theorem mul_self_between {a : Int} (h : -32767 ≤ a ∧ a ≤ 32767) :
    0 ≤ a * a ∧ a * a ≤ 1073676289 := by
  have small : a.natAbs ≤ 32767 := by omega
  have square := Nat.mul_le_mul small small
  rw [← Int.natAbs_mul_self]
  omega

theorem exists_distanceSquared {p q : Point}
    (hx : -32767 ≤ p.x.toInt - q.x.toInt ∧ p.x.toInt - q.x.toInt ≤ 32767)
    (hy : -32767 ≤ p.y.toInt - q.y.toInt ∧ p.y.toInt - q.y.toInt ≤ 32767) :
    ∃ d, distanceSquared p q = .ok d := by
  obtain ⟨dx, hdx, dx_eq⟩ := Coord.exists_check .subtraction
    (n := p.x.toInt - q.x.toInt) (by omega)
  obtain ⟨dy, hdy, dy_eq⟩ := Coord.exists_check .subtraction
    (n := p.y.toInt - q.y.toInt) (by omega)
  rw [← dx_eq] at hx
  rw [← dy_eq] at hy
  have square_x := mul_self_between hx
  have square_y := mul_self_between hy
  obtain ⟨dx2, hdx2, dx2_eq⟩ := Coord.exists_check .multiplication
    (n := dx.toInt * dx.toInt) (by omega)
  obtain ⟨dy2, hdy2, dy2_eq⟩ := Coord.exists_check .multiplication
    (n := dy.toInt * dy.toInt) (by omega)
  obtain ⟨d, sum, -⟩ := Coord.exists_check .addition (n := dx2.toInt + dy2.toInt) (by omega)
  refine ⟨d, ?_⟩
  rw [distanceSquared, Coord.sub, hdx, Checked.ok_bind, Coord.square, Coord.mul, hdx2,
    Checked.ok_bind, Coord.sub, hdy, Checked.ok_bind, Coord.square, Coord.mul, hdy2,
    Checked.ok_bind, Coord.add, sum]

/-! ### The land -/

/-- Every cell of a grid that is not too large has a center. -/
theorem exists_center {g : Grid} (wide : g.width.toNat < 2 ^ 26) (tall : g.height.toNat < 2 ^ 26)
    {cell : UInt32 × UInt32} (mem : cell ∈ g.cells) :
    ∃ p, cellCenter cell.1 cell.2 = .ok p ∧
      (16 ≤ p.x.toInt ∧ p.x.toInt < Map.extent g.width) ∧
        16 ≤ p.y.toInt ∧ p.y.toInt < Map.extent g.height := by
  obtain ⟨hcol, hrow⟩ := Grid.lt_of_mem_cells mem
  rw [UInt32.lt_iff_toNat_lt] at hcol hrow
  have small : cell.1.toNat < 2 ^ 26 ∧ cell.2.toNat < 2 ^ 26 := by omega
  obtain ⟨p, center, x, y⟩ := Map.exists_cellCenter small.1 small.2
  refine ⟨p, center, ?_⟩
  unfold Map.extent
  omega

/-- The land can be shaped after any relief. -/
theorem exists_shape {m : Map} (h : m.HasSize size) (relief : Relief) :
    ∃ m', m.shape relief = .ok m' := by
  have step (g : Grid) (cell : UInt32 × UInt32) (mem : cell ∈ m.grid.cells) (_ : True) :
      ∃ g', Map.shapeCell relief g cell = .ok g' ∧ True := by
    obtain ⟨p, center, -⟩ := exists_center h.wide h.tall mem
    rw [Map.shapeCell, center, Checked.ok_bind]
    split <;> exact ⟨_, rfl, trivial⟩
  obtain ⟨grid, shaped, -⟩ := Checked.exists_foldlM step (b := m.grid) trivial
  exact ⟨{ m with grid }, by rw [Map.shape, shaped, Checked.ok_bind]⟩

/-- The ground for a town can be cleared. -/
theorem exists_clearTownGround (h : w.map.HasSize size) (bounds : w.map.bounds = .ok area) :
    ∃ w', w.clearTownGround area.center = .ok w' := by
  obtain ⟨hx, hy⟩ := h.center bounds
  have between := h.between
  have radius : Coord.square townRadius = .ok 36864 := by rfl
  have step (g : Grid) (cell : UInt32 × UInt32) (mem : cell ∈ w.map.grid.cells) (_ : True) :
      ∃ g', clearCell area.center g cell = .ok g' ∧ True := by
    obtain ⟨p, center, x, y⟩ := exists_center h.wide h.tall mem
    unfold Map.extent at x y
    obtain ⟨d, distance⟩ := exists_distanceSquared (p := p) (q := area.center)
      (by omega) (by omega)
    rw [clearCell, center, Checked.ok_bind, distance, Checked.ok_bind, radius, Checked.ok_bind]
    split <;> exact ⟨_, rfl, trivial⟩
  obtain ⟨grid, cleared, -⟩ := Checked.exists_foldlM step (b := w.map.grid) trivial
  exact ⟨{ w with map := { w.map with grid } },
    by rw [clearTownGround, cleared, Checked.ok_bind]⟩

/-! ### The town -/

/-- The terrain has no part in whether a world can be played on. -/
theorem Playable.remap (h : w.Playable issued) {map : Map} (same : w.map.grid.SameSize map.grid) :
    Playable { w with map } issued where
  inStep := isFounding_inStep.remap h.inStep same
  room := by rw [Map.bounds_congr same]; exact h.room
  steady := h.steady
  next := h.next
  old := h.old

/-- Spawning from a preset has no fault, and leaves the map alone. -/
theorem Playable.exists_spawn (h : w.Playable issued) (left : issued + 2 < UInt32.size)
    (preset : UnitPreset) : ∃ spawned w',
      w.spawnUnit (fun id => .ok (preset.build id)) = .ok (spawned, w') ∧
        w'.Playable (issued + 1) ∧ w'.map = w.map := by
  obtain ⟨spawned, w', spawn, playable⟩ := h.exists_spawnUnit left preset
  obtain ⟨u, fitted, u', filed, index, -, -, -, -, -, -, result⟩ := settled_of_spawnUnit spawn
  refine ⟨spawned, w', spawn, playable, ?_⟩
  rcases result with ⟨-, -, rfl⟩ | ⟨-, -, rfl⟩ <;> rfl

/-- Every house has a place. -/
theorem exists_housePlace {m : Map} (h : m.HasSize size) (bounds : m.bounds = .ok area) {n i : Nat}
    (moderate : means.IsModerate n) (lt : i < n) :
    ∃ p, housePlace means area.center n i = .ok p := by
  obtain ⟨hx, hy⟩ := h.center bounds
  have between := h.between
  obtain ⟨cos, sin⟩ := moderate i lt
  unfold Means.IsNear at cos sin
  obtain ⟨x, x_sum, -⟩ := Coord.exists_check .addition (n := area.center.x.toInt
    + (houseOffset (means.cos (houseAngle n i))).toInt) (by omega)
  obtain ⟨y, y_sum, -⟩ := Coord.exists_check .addition (n := area.center.y.toInt
    + (houseOffset (means.sin (houseAngle n i))).toInt) (by omega)
  refine ⟨⟨x, y⟩, ?_⟩
  rw [housePlace, Coord.add, x_sum, Checked.ok_bind, Coord.add, y_sum, Checked.ok_bind]

/-- Every villager has a place, if there are not too many. -/
theorem exists_villagerPlace {m : Map} (h : m.HasSize size) (bounds : m.bounds = .ok area) {i : Nat}
    (few : i < 335544320) : ∃ p, villagerPlace area.center i = .ok p := by
  obtain ⟨hx, hy⟩ := h.center bounds
  have between := h.between
  have toInt_64 : (64 : Int32).toInt = 64 := by decide
  have toInt_96 : (96 : Int32).toInt = 96 := by decide
  have number : (Int32.ofNat i).toInt = i := Int32.toInt_ofNat_of_lt (by omega)
  have place : (Int32.ofNat i % 5).toInt = (i % 5 : Nat) := by
    rw [Int32.toInt_mod, number]
    rfl
  have rows : (Int32.ofNat i / 5).toInt = (i / 5 : Nat) := by
    rw [Int32.toInt_div_of_ne_right _ _ (by decide), number]
    rfl
  obtain ⟨left, left_sum, hleft⟩ := Coord.exists_check .subtraction
    (n := area.center.x.toInt - (64 : Int32).toInt) (by rw [hx, toInt_64]; omega)
  obtain ⟨column, column_product, hcolumn⟩ := Coord.exists_check .multiplication
    (n := (Int32.ofNat i % 5).toInt * cellSize.toInt) (by rw [place, toInt_cellSize]; omega)
  obtain ⟨x, x_sum, -⟩ := Coord.exists_check .addition (n := left.toInt + column.toInt)
    (by rw [hleft, hcolumn, hx, toInt_64, place, toInt_cellSize]; omega)
  obtain ⟨top, top_sum, htop⟩ := Coord.exists_check .subtraction
    (n := area.center.y.toInt - (96 : Int32).toInt) (by rw [hy, toInt_96]; omega)
  obtain ⟨row, row_product, hrow⟩ := Coord.exists_check .multiplication
    (n := (Int32.ofNat i / 5).toInt * cellSize.toInt) (by rw [rows, toInt_cellSize]; omega)
  have half : (row / 2).toInt = 16 * (i / 5 : Nat) := by
    rw [Coord.toInt_half, hrow, rows, toInt_cellSize, Int.tdiv_eq_ediv_of_nonneg (by omega)]
    omega
  obtain ⟨y, y_sum, -⟩ := Coord.exists_check .subtraction (n := top.toInt - (row / 2).toInt)
    (by rw [htop, hy, toInt_96, half]; omega)
  refine ⟨⟨x, y⟩, ?_⟩
  rw [villagerPlace, Coord.sub, left_sum, Checked.ok_bind, Coord.mul, column_product,
    Checked.ok_bind, Coord.add, x_sum, Checked.ok_bind, Coord.sub, top_sum, Checked.ok_bind,
    Coord.mul, row_product, Checked.ok_bind, Coord.sub, y_sum, Checked.ok_bind]

/-- A house can be built. -/
theorem Playable.exists_addHouse (h : w.Playable issued) (size : w.map.HasSize size)
    (bounds : w.map.bounds = .ok area) (left : issued + 2 < UInt32.size) {n i : Nat}
    (moderate : means.IsModerate n) (lt : i < n) :
    ∃ w', addHouse means area.center n w i = .ok w' ∧ w'.Playable (issued + 1) ∧
      w'.map = w.map := by
  obtain ⟨p, place⟩ := exists_housePlace size bounds moderate lt
  obtain ⟨spawned, w', spawn, playable, map⟩ := h.exists_spawn left (.building p .house 1)
  have spawn : w.spawnBuilding p .house 1 = .ok (spawned, w') := spawn
  exact ⟨w', by rw [addHouse, place, Checked.ok_bind, spawn, Checked.map_ok], playable, map⟩

/-- A villager can join. -/
theorem Playable.exists_addVillager (h : w.Playable issued) (size : w.map.HasSize size)
    (bounds : w.map.bounds = .ok area) (left : issued + 2 < UInt32.size) {i : Nat}
    (few : i < 335544320) :
    ∃ w', addVillager area.center w i = .ok w' ∧ w'.Playable (issued + 1) ∧ w'.map = w.map := by
  obtain ⟨p, place⟩ := exists_villagerPlace size bounds few
  obtain ⟨spawned, w', spawn, playable, map⟩ :=
    h.exists_spawn left (.villager p (villagerColor i))
  have spawn : w.spawnVillager p (villagerColor i) = .ok (spawned, w') := spawn
  exact ⟨w', by rw [addVillager, place, Checked.ok_bind, spawn, Checked.map_ok], playable, map⟩

/-- A town can be founded as long as the ids do not run out. -/
theorem Playable.exists_foundTown (h : w.Playable issued) (size : w.map.HasSize size)
    (bounds : w.map.bounds = .ok area) {houses villagers : Nat}
    (moderate : means.IsModerate houses) (few : villagers ≤ 335544320)
    (left : issued + houses + villagers + 2 < UInt32.size) :
    ∃ w', w.foundTown means area.center houses villagers = .ok w' ∧
      w'.Playable (issued + 1 + houses + villagers) := by
  obtain ⟨spawned, w₁, spawn, h₁, map₁⟩ :=
    h.exists_spawn (by omega) (.building area.center .townCenter 1)
  have spawn : w.spawnBuilding area.center .townCenter 1 = .ok (spawned, w₁) := spawn
  -- every house takes an id, and so does every villager after them
  have house (k : Nat) (v : World) (i : Nat) (mem : i ∈ List.range houses)
      (lt : k < issued + 1 + (List.range houses).length) (hv : v.Playable k ∧ v.map = w.map) :
      ∃ v', addHouse means area.center houses v i = .ok v' ∧ v'.Playable (k + 1) ∧
        v'.map = w.map := by
    rw [List.length_range] at lt
    obtain ⟨playable, map⟩ := hv
    obtain ⟨v', added, playable', map'⟩ := playable.exists_addHouse (map ▸ size) (map ▸ bounds)
      (by omega) moderate (List.mem_range.mp mem)
    exact ⟨v', added, playable', map'.trans map⟩
  obtain ⟨w₂, housed, h₂, map₂⟩ := Checked.exists_foldlM_count house ⟨h₁, map₁⟩
  rw [List.length_range] at h₂
  have villager (k : Nat) (v : World) (i : Nat) (mem : i ∈ List.range villagers)
      (lt : k < issued + 1 + houses + (List.range villagers).length)
      (hv : v.Playable k ∧ v.map = w.map) :
      ∃ v', addVillager area.center v i = .ok v' ∧ v'.Playable (k + 1) ∧ v'.map = w.map := by
    rw [List.length_range] at lt
    obtain ⟨playable, map⟩ := hv
    have few : i < 335544320 := Nat.lt_of_lt_of_le (List.mem_range.mp mem) few
    obtain ⟨v', added, playable', map'⟩ := playable.exists_addVillager (map ▸ size) (map ▸ bounds)
      (by omega) few
    exact ⟨v', added, playable', map'.trans map⟩
  obtain ⟨w₃, peopled, h₃, -⟩ := Checked.exists_foldlM_count villager ⟨h₂, map₂⟩
  rw [List.length_range] at h₃
  refine ⟨w₃, ?_, h₃⟩
  rw [World.foundTown, spawn, Checked.ok_bind]
  dsimp only
  rw [housed, Checked.ok_bind, peopled]

/-! ### The resources -/

variable {dice : Random.Dice σ} {b m n : Nat}

/-- A place can be drawn on every map of a size class. -/
theorem exists_drawPlace (dice : Random.Dice σ) {map : Map} (h : map.HasSize size)
    (bounds : map.bounds = .ok area) (source : σ) :
    ∃ p source', drawPlace dice area source = .ok (p, source') := by
  have between := h.between
  obtain ⟨⟨low_x, high_x⟩, low_y, high_y⟩ := Map.corners_bounds h.wide h.tall bounds
  unfold Map.extent at *
  have cell := toInt_cellSize
  obtain ⟨left, left_sum, -⟩ := Coord.exists_check .addition
    (n := area.low.x.toInt + cellSize.toInt) (by omega)
  obtain ⟨right, right_sum, -⟩ := Coord.exists_check .subtraction
    (n := area.high.x.toInt - cellSize.toInt) (by omega)
  obtain ⟨bottom, bottom_sum, -⟩ := Coord.exists_check .addition
    (n := area.low.y.toInt + cellSize.toInt) (by omega)
  obtain ⟨top, top_sum, -⟩ := Coord.exists_check .subtraction
    (n := area.high.y.toInt - cellSize.toInt) (by omega)
  refine ⟨⟨(dice.range left right source).1,
    (dice.range bottom top (dice.range left right source).2).1⟩,
    (dice.range bottom top (dice.range left right source).2).2, ?_⟩
  rw [drawPlace, Coord.add, left_sum, Checked.ok_bind, Coord.sub, right_sum, Checked.ok_bind]
  dsimp only
  rw [Coord.add, bottom_sum, Checked.ok_bind, Coord.sub, top_sum, Checked.ok_bind]

/-- An attempt has no fault, and takes an id only if it places a node. -/
theorem Playable.exists_scatterOne (fair : dice.IsFair) {f : Founding σ}
    (h : f.world.Playable issued) (populated : f.world.Populated b m n)
    (size : f.world.map.HasSize size) (bounds : f.world.map.bounds = .ok area)
    (left : issued + 2 < UInt32.size) :
    ∃ isPlaced f', scatterOne dice area f = .ok (isPlaced, f') ∧
      f'.world.Playable (issued + if isPlaced then 1 else 0) := by
  obtain ⟨hx, hy⟩ := size.center bounds
  have long := size.between
  obtain ⟨place, source, drawn⟩ := exists_drawPlace dice size bounds f.source
  have between := between_of_drawPlace fair size bounds drawn
  unfold Map.extent at between
  obtain ⟨d, distance⟩ := exists_distanceSquared (p := place) (q := area.center)
    (by omega) (by omega)
  have double : Coord.mul townRadius 2 = .ok 384 := by rfl
  have square : Coord.square 384 = .ok 147456 := by rfl
  rw [scatterOne, drawn, Checked.ok_bind]
  dsimp only
  split
  case isTrue => exact ⟨false, _, rfl, h⟩
  case isFalse =>
    rw [distance, Checked.ok_bind, double, Checked.ok_bind, square, Checked.ok_bind]
    split
    case isTrue => exact ⟨false, _, rfl, h⟩
    case isFalse =>
      -- the node is not discarded, so its id is accounted for
      generalize drawResource dice (f.world.map.grid.terrainAt? (f.world.map.cellOf place).1
        (f.world.map.cellOf place).2) source = resource
      obtain ⟨spawned, w', spawn, playable, -⟩ := h.exists_spawn left (.resource place resource.1)
      have spawn : f.world.spawnResource place resource.1 = .ok (spawned, w') := spawn
      obtain ⟨u, rfl, -⟩ := populated.spawnResource size spawn
      refine ⟨true, ⟨w', resource.2⟩, ?_, playable⟩
      rw [spawn, Checked.ok_bind]
      rfl

/-- Resources can be scattered as long as the ids do not run out. -/
theorem Playable.exists_scatter (fair : dice.IsFair) {map : Map} (size : map.HasSize size)
    (bounds : map.bounds = .ok area) (attempts goal : Nat) {f : Founding σ}
    (h : f.world.Playable issued) (stocked : Stocked map f.world b m n)
    (left : issued + goal + 1 < UInt32.size) :
    ∃ f', scatter dice area attempts goal f = .ok f' := by
  induction attempts generalizing goal f issued n with
  | zero => exact ⟨f, rfl⟩
  | succ attempts ih =>
    cases goal with
    | zero => exact ⟨f, rfl⟩
    | succ goal =>
      have unchanged := stocked.unchanged
      obtain ⟨isPlaced, f₁, tried, h₁⟩ := h.exists_scatterOne fair stocked.populated
        (unchanged ▸ size) (unchanged ▸ bounds) (by omega)
      have room : issued + (if isPlaced then 1 else 0) + (if isPlaced then goal else goal + 1) + 1
          < UInt32.size := by
        split <;> omega
      obtain ⟨f', scattered⟩ := ih _ h₁ (stocked.scatterOne fair size bounds tried) room
      refine ⟨f', ?_⟩
      rw [World.scatter, tried, Checked.ok_bind]
      exact scattered

/-! ### The match -/

variable {s : Settings}

/-- A town can be founded on cleared ground, whatever the viewport is. -/
theorem Playable.exists_colonize (h : w.Playable issued) (size : w.map.HasSize size)
    (bounds : w.map.bounds = .ok area) (moderate : means.IsModerate s.houses.toNat)
    (few : s.villagers.toNat ≤ 335544320)
    (left : issued + s.houses.toNat + s.villagers.toNat + 2 < UInt32.size) :
    ∃ w', w.colonize means s area.center = .ok w' ∧
      w'.Playable (issued + 1 + s.houses.toNat + s.villagers.toNat) := by
  obtain ⟨hx, hy⟩ := size.center bounds
  have between := size.between
  have half (extent : Int32) :
      -1073741824 ≤ (extent / 2).toInt ∧ (extent / 2).toInt ≤ 1073741824 := by
    have range := Coord.inRange_toInt extent
    have rounded := Coord.half_toward_zero extent
    rw [Coord.inRange_iff] at range
    omega
  have half_x := half s.viewport.1
  have half_y := half s.viewport.2
  obtain ⟨x, x_sum, -⟩ := Coord.exists_check .subtraction
    (n := area.center.x.toInt - (s.viewport.1 / 2).toInt) (by omega)
  obtain ⟨y, y_sum, -⟩ := Coord.exists_check .subtraction
    (n := area.center.y.toInt - (s.viewport.2 / 2).toInt) (by omega)
  -- the viewport has no part in the grid
  have view : w.map.grid.SameSize (w.map.reshape x y s.viewport.1 s.viewport.2).grid := ⟨rfl, rfl⟩
  obtain ⟨w₁, cleared⟩ := exists_clearTownGround (w := { w with
    map := w.map.reshape x y s.viewport.1 s.viewport.2 }) (size.congr view) bounds
  obtain ⟨map, rfl, same, -⟩ := hasGreen_of_clearTownGround (w := { w with
    map := w.map.reshape x y s.viewport.1 s.viewport.2 }) (size.congr view) bounds cleared
  have same : w.map.grid.SameSize map.grid := view.trans same
  obtain ⟨w', founded, playable⟩ := (h.remap same).exists_foundTown (size.congr same)
    ((Map.bounds_congr same).trans bounds) moderate few left
  refine ⟨w', ?_, playable⟩
  rw [World.colonize, Coord.sub, x_sum, Checked.ok_bind, Coord.sub, y_sum, Checked.ok_bind]
  dsimp only
  rw [cleared, Checked.ok_bind, founded]

/-- A match can be founded as long as the ids suffice, the villagers fit into their rows and the
houses have places. -/
theorem exists_generateBy (fair : means.dice.IsFair) (moderate : means.IsModerate s.houses.toNat)
    (few : s.villagers.toNat ≤ 335544320)
    (left : s.houses.toNat + s.villagers.toNat + s.resources.toNat + 2 < UInt32.size) :
    ∃ w, generateBy means s = .ok w := by
  have size := Map.hasSize_resize Map.empty s.mapSize
  obtain ⟨w₀, started, playable⟩ :=
    playable_onMap s.quadtreeCapacity.toNat size.wide size.tall
  obtain ⟨nobody, empty⟩ := populated_onMap started
  rw [← empty] at size
  obtain ⟨map, shaped⟩ :=
    exists_shape size (means.relief (means.dice.word (means.dice.seeded s.seed)).1)
  have same := Map.sameSize_shape shaped
  obtain ⟨area, bounds, -⟩ := playable.room
  have bounds := (Map.bounds_congr same).trans bounds
  obtain ⟨town, colonized, settled⟩ :=
    (playable.remap same).exists_colonize (size.congr same) bounds moderate few (by omega)
  obtain ⟨populated, same', -⟩ := (nobody.remap same).colonize (size.congr same) bounds colonized
  obtain ⟨f, scattered⟩ := settled.exists_scatter fair ((size.congr same).congr same')
    ((Map.bounds_congr same').trans bounds) (attemptsFor s.resources.toNat) s.resources.toNat
    (f := ⟨town, (means.dice.word (means.dice.seeded s.seed)).2⟩) populated.stocked (by omega)
  refine ⟨f.world, ?_⟩
  rw [generateBy, World.ofSize, started, Checked.ok_bind]
  dsimp only
  rw [shaped, Checked.ok_bind, found, bounds, Checked.ok_bind, colonized, Checked.ok_bind, scattered,
    Checked.ok_bind]

end World

end Skirmish
