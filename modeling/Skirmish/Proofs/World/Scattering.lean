import Skirmish.Proofs.Random.Dice
import Skirmish.Proofs.World.Town

/-!
# Scattered resources

Every place that is drawn is at least one cell away from the edges of the map, so a resource node
lies inside the map there: it is not moved, and it is never discarded.  So it stands on the terrain
that its kind was chosen for, as far away from the town as the place that was drawn.

## Main definitions

* `Terrain.Bears` — which resources are found on which terrain.
* `Map.Suits` — the places for resource nodes of a kind.
* `World.Stocked` — a world that has so many resource nodes, each where it may be.

## Main results

* `World.between_of_drawPlace`, `World.inside_of_drawPlace` — a node lies inside the map wherever it is drawn.
* `World.Stocked.scatterOne`, `World.Stocked.attempts` — a node for every attempt that succeeds.
-/

namespace Skirmish

/-- The resources that are found on a terrain. -/
inductive Terrain.Bears : Terrain → Resource → Prop
  | forest : Bears .forest .wood
  | mine : Bears .desert .gold
  | quarry : Bears .desert .stone
  | bush : Bears .grass .food
  | copse : Bears .grass .wood

/-- A place for resource nodes of a kind: far from the center of the map, on terrain where they are
found. -/
structure Map.Suits (m : Map) (p : Point) (kind : Resource) : Prop where
  far : (12 * 32) * (12 * 32) ≤ m.fromCenter p.x.toInt p.y.toInt
  ground : ∃ terrain, m.grid.terrainAt? (m.cellOf p).1 (m.cellOf p).2 = some terrain ∧
    terrain ≠ .water ∧ terrain.Bears kind

namespace World

variable {σ : Type} {dice : Random.Dice σ} {area : Box} {w : World} {size : SizeClass}

/-! ### What is drawn -/

/-- What is drawn on dry land is found there. -/
theorem bears_drawResource {terrain : Terrain} (dry : terrain ≠ .water) (source : σ) :
    terrain.Bears (drawResource dice (some terrain) source).1 := by
  cases terrain with
  | water => exact absurd rfl dry
  | forest => exact .forest
  | desert =>
    show Terrain.desert.Bears (if (dice.chance 0.5 source).1 then .gold else .stone)
    split
    · exact .mine
    · exact .quarry
  | grass =>
    show Terrain.grass.Bears (if (dice.chance 0.6 source).1 then .food else .wood)
    split
    · exact .bush
    · exact .copse

/-- A place that is drawn is at least one cell away from the edges of the map. -/
theorem between_of_drawPlace {map : Map} (fair : dice.IsFair) (size : map.HasSize size)
    (bounds : map.bounds = .ok area) {source source' : σ} {place : Point}
    (drawn : drawPlace dice area source = .ok (place, source')) :
    (32 ≤ place.x.toInt ∧ place.x.toInt < Map.extent map.grid.width - 32) ∧
      32 ≤ place.y.toInt ∧ place.y.toInt < Map.extent map.grid.height - 32 := by
  obtain ⟨⟨low_x, high_x⟩, low_y, high_y⟩ := Map.corners_bounds size.wide size.tall bounds
  have long := size.between
  simp only [drawPlace, Coord.add, Coord.sub, Checked.bind_eq_ok_iff, Coord.check_eq_ok_iff,
    Except.ok.injEq, Prod.mk.injEq, toInt_cellSize, low_x, high_x, low_y, high_y] at drawn
  obtain ⟨left, hleft, right, hright, bottom, hbottom, top, htop, hplace, -⟩ := drawn
  have hx : (dice.range left right source).1 = place.x := congrArg Point.x hplace
  have hy : (dice.range bottom top (dice.range left right source).2).1 = place.y :=
    congrArg Point.y hplace
  unfold Map.extent at *
  -- there is something to draw from, since the map is more than two cells long
  have x := fair.range left right source (by rw [Int32.lt_iff_toInt_lt]; omega)
  have y := fair.range bottom top (dice.range left right source).2
    (by rw [Int32.lt_iff_toInt_lt]; omega)
  rw [hx, Int32.le_iff_toInt_le, Int32.lt_iff_toInt_lt] at x
  rw [hy, Int32.le_iff_toInt_le, Int32.lt_iff_toInt_lt] at y
  omega

/-- A resource node lies inside the map wherever it is drawn. -/
theorem inside_of_drawPlace (fair : dice.IsFair) (h : w.InStep) (size : w.map.HasSize size)
    (bounds : w.map.bounds = .ok area) {source source' : σ} {place : Point}
    (drawn : drawPlace dice area source = .ok (place, source')) (id : EntityId) (kind : Resource) :
    w.index.area.Covers (GameUnit.resource id place kind).bounds := by
  have between := between_of_drawPlace fair size bounds drawn
  have half : (GameUnit.resource id place kind).bounds.half.x.toInt = 12 ∧
      (GameUnit.resource id place kind).bounds.half.y.toInt = 12 := by
    show (Footprint.ofDiameter 24).half.x.toInt = 12 ∧ (Footprint.ofDiameter 24).half.y.toInt = 12
    decide
  have center : (GameUnit.resource id place kind).bounds.center = place := rfl
  rw [Map.covers_bounds_iff size.wide size.tall h.bounds, half.1, half.2, center]
  unfold Map.Inside
  omega

/-! ### What is placed -/

variable {map : Map} {b m n : Nat}

/-- A resource node joins the world that it is spawned in. -/
theorem Populated.spawnResource {w' : World} (h : w.Populated b m n) (size : w.map.HasSize size)
    {pos : Point} {kind : Resource} {spawned : Option EntityId}
    (spawn : w.spawnResource pos kind = .ok (spawned, w')) :
    ∃ u, spawned = some u.id ∧ u.role = .node kind ∧
      (w.index.area.Covers (GameUnit.resource ⟨w.roster.next⟩ pos kind).bounds → u.pos = pos) ∧
        Joined u w w' := by
  have small : (Footprint.ofDiameter 24).half.x.toInt ≤ 48 ∧
      (Footprint.ofDiameter 24).half.y.toInt ≤ 48 := by decide
  exact h.exists_joined size (.resource pos kind) (fun _ => small) spawn

/-- A world of a size class with so many buildings, mobile units and resource nodes, in which each
node stands where it may be. -/
structure Stocked (map : Map) (w : World) (buildings mobiles nodes : Nat) : Prop where
  populated : w.Populated buildings mobiles nodes
  unchanged : w.map = map
  suits : ∀ u ∈ w.roster.roll, ∀ kind, u.role = .node kind → map.Suits u.pos kind

/-- No node stands where it may not be, where there are none. -/
theorem Populated.stocked (h : w.Populated b m 0) : Stocked w.map w b m 0 := by
  refine ⟨h, rfl, fun u mem kind role => ?_⟩
  have absent := List.countP_eq_zero.mp h.nodes u mem
  rw [role] at absent
  exact absurd rfl absent

/-- A node is placed whenever an attempt succeeds. -/
theorem Stocked.scatterOne (fair : dice.IsFair) (size : map.HasSize size)
    (bounds : map.bounds = .ok area) {f f' : Founding σ} {isPlaced : Bool}
    (h : Stocked map f.world b m n)
    (tried : scatterOne dice area f = .ok (isPlaced, f')) :
    Stocked map f'.world b m (n + if isPlaced then 1 else 0) := by
  rcases of_scatterOne tried with ⟨rfl, same⟩ | ⟨place, kind, spawned, spawns, spawn, rfl⟩
  · exact same ▸ h
  · obtain ⟨populated, rfl, suits⟩ := h
    obtain ⟨source, drawn, hkind⟩ := spawns.drawn
    obtain ⟨u, rfl, role, stays, joined⟩ := populated.spawnResource size spawn
    have pos : u.pos = place :=
      stays (inside_of_drawPlace fair populated.numbered.inStep size bounds drawn _ kind)
    have after := populated.join joined
    rw [role] at after
    refine ⟨after, joined.map, fun v mem kind' hrole => ?_⟩
    rcases List.mem_cons.mp (joined.roll.mem_iff.mp mem) with rfl | mem
    · -- the new node
      obtain rfl := GameUnit.Role.node.inj (role.symm.trans hrole)
      have between := size.between
      obtain ⟨col, row⟩ := Map.cellOf_lt (m := f.world.map) (by omega) (by omega) place
      obtain ⟨terrain, found⟩ := Grid.exists_terrainAt? col row
      have dry := spawns.dry
      rw [found] at hkind dry
      rw [pos]
      refine ⟨by rw [size.fromCenter_eq bounds]; exact spawns.far, terrain, found, ?_, ?_⟩
      · exact fun wet => dry (congrArg some wet)
      · rw [hkind]
        exact bears_drawResource (fun wet => dry (congrArg some wet)) source
    · exact suits v mem kind' hrole

/-- As many nodes are placed as there are attempts that succeed. -/
theorem Stocked.attempts (fair : dice.IsFair) (size : map.HasSize size)
    (bounds : map.bounds = .ok area) {outcomes : List Bool} {f f' : Founding σ}
    (h : Stocked map f.world b m n) (made : Attempts dice area outcomes f f') :
    Stocked map f'.world b m (n + outcomes.count true) := by
  induction made generalizing n with
  | nil => exact h
  | @cons isPlaced outcomes f f₁ f' tried _ ih =>
    have after := ih (h.scatterOne fair size bounds tried)
    rw [List.count_cons, beq_true, Nat.add_comm (outcomes.count true), ← Nat.add_assoc]
    exact after

end World

end Skirmish
