import Skirmish.Proofs.World.Joining

/-!
# Towns

A town has its center, its houses and its villagers.  Every map of a size class is large enough for
each of them, so none is discarded, wherever the directions of the houses may lead.

## Main definitions

* `World.Populated` — a world with so many buildings, mobile units and resource nodes.

## Main results

* `World.Populated.exists_joined` — small units join wherever they are spawned.
* `World.Populated.foundTown`, `World.Populated.colonize` — who lives in a town.
-/

namespace Skirmish

namespace World

variable {w w' : World} {size : SizeClass} {u : GameUnit}

/-- A world with so many buildings, mobile units and resource nodes, and nothing else. -/
structure Populated (w : World) (buildings mobiles nodes : Nat) : Prop where
  numbered : w.Numbered
  particles : w.roster.particles = ∅
  buildings : w.roster.headcount GameUnit.Role.isBuilding = buildings
  mobiles : w.roster.headcount GameUnit.Role.isMobile = mobiles
  nodes : w.roster.headcount GameUnit.Role.isNode = nodes

variable {b m n : Nat}

/-- Nobody lives in an empty world. -/
theorem populated_onMap {map : Map} {capacity : Nat} (started : World.onMap map capacity = .ok w) :
    w.Populated 0 0 0 ∧ w.map = map := by
  have numbered := numbered_onMap started
  obtain ⟨area, -, rfl⟩ := of_onMap started
  have nobody (p : GameUnit.Role → Bool) : Roster.empty.headcount p = 0 := by
    rw [Roster.headcount, Roster.roll_empty, List.countP_nil]
  exact ⟨⟨numbered, rfl, nobody _, nobody _, nobody _⟩, rfl⟩

/-- The terrain has no part in who lives on it. -/
theorem Populated.remap (h : w.Populated b m n) {map : Map} (same : w.map.grid.SameSize map.grid) :
    Populated { w with map } b m n :=
  ⟨isFounding_numbered.remap h.numbered same, h.particles, h.buildings, h.mobiles, h.nodes⟩

/-- Somebody joins. -/
theorem Populated.join (h : w.Populated b m n) (joined : Joined u w w') :
    w'.Populated (b + if u.role.isBuilding then 1 else 0) (m + if u.role.isMobile then 1 else 0)
      (n + if u.role.isNode then 1 else 0) where
  numbered := joined.numbered
  particles := joined.particles.trans h.particles
  buildings := by rw [joined.headcount, h.buildings]
  mobiles := by rw [joined.headcount, h.mobiles]
  nodes := by rw [joined.headcount, h.nodes]

/-- A unit that takes no more than three cells joins the world that it is spawned in. -/
theorem Populated.exists_joined (h : w.Populated b m n) (size : w.map.HasSize size)
    (preset : UnitPreset) {spawned : Option EntityId}
    (small : ∀ id, (preset.build id).body.footprint.half.x.toInt ≤ 48 ∧
      (preset.build id).body.footprint.half.y.toInt ≤ 48)
    (spawn : w.spawnUnit (fun id => .ok (preset.build id)) = .ok (spawned, w')) :
    ∃ u, spawned = some u.id ∧ u.role = (preset.build ⟨w.roster.next⟩).role ∧
      (w.index.area.Covers (preset.build ⟨w.roster.next⟩).bounds →
        u.pos = (preset.build ⟨w.roster.next⟩).pos) ∧ Joined u w w' :=
  h.numbered.exists_joined size.wide size.tall rfl (size.fits (small _)) spawn

section

variable {σ : Type} {means : Means σ} {center : Point} {houses villagers : Nat}

theorem Populated.spawnBuilding (h : w.Populated b m n) (size : w.map.HasSize size) {pos : Point}
    {kind : Building} {color : UInt32} {spawned : Option EntityId}
    (spawn : w.spawnBuilding pos kind color = .ok (spawned, w')) :
    w'.Populated (b + 1) m n ∧ w'.map = w.map := by
  have small : kind.footprint.half.x.toInt ≤ 48 ∧ kind.footprint.half.y.toInt ≤ 48 := by
    cases kind <;> decide
  obtain ⟨u, -, role, -, joined⟩ :=
    h.exists_joined size (.building pos kind color) (fun _ => small) spawn
  have after := h.join joined
  rw [role] at after
  exact ⟨after, joined.map⟩

theorem Populated.spawnVillager (h : w.Populated b m n) (size : w.map.HasSize size) {pos : Point}
    {color : UInt32} {spawned : Option EntityId}
    (spawn : w.spawnVillager pos color = .ok (spawned, w')) :
    w'.Populated b (m + 1) n ∧ w'.map = w.map := by
  have small : (Footprint.ofDiameter 14).half.x.toInt ≤ 48 ∧
      (Footprint.ofDiameter 14).half.y.toInt ≤ 48 := by decide
  obtain ⟨u, -, role, -, joined⟩ :=
    h.exists_joined size (.villager pos color) (fun _ => small) spawn
  have after := h.join joined
  rw [role] at after
  exact ⟨after, joined.map⟩

theorem Populated.addHouse (h : w.Populated b m n) (size : w.map.HasSize size) {i : Nat}
    (added : addHouse means center houses w i = .ok w') :
    w'.Populated (b + 1) m n ∧ w'.map = w.map := by
  obtain ⟨place, spawned, spawn⟩ := of_addHouse added
  exact h.spawnBuilding size spawn

theorem Populated.addVillager (h : w.Populated b m n) (size : w.map.HasSize size) {i : Nat}
    (added : addVillager center w i = .ok w') : w'.Populated b (m + 1) n ∧ w'.map = w.map := by
  obtain ⟨place, spawned, spawn⟩ := of_addVillager added
  exact h.spawnVillager size spawn

/-- A town has its center, all its houses and all its villagers. -/
theorem Populated.foundTown (h : w.Populated b m n) (size : w.map.HasSize size)
    (founded : w.foundTown means center houses villagers = .ok w') :
    w'.Populated (b + 1 + houses) (m + villagers) n ∧ w'.map = w.map := by
  simp only [World.foundTown, Checked.bind_eq_ok_iff] at founded
  obtain ⟨⟨id, w₁⟩, built, w₂, housed, peopled⟩ := founded
  obtain ⟨h₁, map₁⟩ := h.spawnBuilding size built
  -- the houses, and then the villagers, are counted while they are spawned
  have h₂ : w₂.Populated (b + 1 + houses) m n ∧ w₂.map = w.map := by
    rw [← List.length_range (n := houses)]
    refine Checked.foldlM_count (P := fun k v => v.Populated k m n ∧ v.map = w.map) ?_
      ⟨h₁, map₁⟩ housed
    rintro k v i v' ⟨hv, map⟩ added
    obtain ⟨hv', map'⟩ := hv.addHouse (map ▸ size) added
    exact ⟨hv', map'.trans map⟩
  rw [← List.length_range (n := villagers)]
  refine Checked.foldlM_count (P := fun k v => v.Populated (b + 1 + houses) k n ∧ v.map = w.map) ?_
    h₂ peopled
  rintro k v i v' ⟨hv, map⟩ added
  obtain ⟨hv', map'⟩ := hv.addVillager (map ▸ size) added
  exact ⟨hv', map'.trans map⟩

/-- A town on cleared ground. -/
theorem Populated.colonize {s : Settings} {area : Box} (h : w.Populated b m n)
    (size : w.map.HasSize size) (bounds : w.map.bounds = .ok area)
    (colonized : w.colonize means s area.center = .ok w') :
    w'.Populated (b + 1 + s.houses.toNat) (m + s.villagers.toNat) n ∧
      w.map.grid.SameSize w'.map.grid ∧ w'.map.HasGreen := by
  simp only [World.colonize, Checked.bind_eq_ok_iff] at colonized
  obtain ⟨left, -, bottom, -, w₁, cleared, town⟩ := colonized
  -- the viewport has no part in the grid
  have size' : (w.map.reshape left bottom s.viewport.1 s.viewport.2).HasSize _ :=
    size.congr ⟨rfl, rfl⟩
  obtain ⟨map, rfl, same, green⟩ := hasGreen_of_clearTownGround (w := { w with
    map := w.map.reshape left bottom s.viewport.1 s.viewport.2 }) size' bounds cleared
  obtain ⟨after, unchanged⟩ := (h.remap same).foundTown (size'.congr same) town
  exact ⟨after, unchanged ▸ same, unchanged ▸ green⟩

end

end World

end Skirmish
