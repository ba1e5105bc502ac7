import Skirmish.Proofs.Map.Bounds
import Skirmish.Proofs.Quadtree.Listing
import Skirmish.Proofs.Quadtree.Search
import Skirmish.Proofs.World.Owned
import Skirmish.World.Frame
import Skirmish.World.Orders

/-!
# Roster and index in step

An entity is owned exactly when it is filed, under its own ground and with its own gait, and the
index covers the playable area.  Each operation of the world changes the roster, the index or both,
and keeps them in step: what a change of the one does to an id, the change of the other does too.

An owned entity fits the map, since it was filed.  So wherever it is put it fits after clamping,
and the index does not lose it.

## Main definitions

* `GameUnit.turn` — what a tick makes of one unit on a map.
* `World.InStep` — roster and index agree.

## Main results

* `World.of_onMap` — all that there is in an empty world.
* `World.of_moveUnit`, `World.of_relocate`, `World.of_tickUnit` and the others — all that an
  operation on one entity can do.
* `InStep.rebinds`, `InStep.of_sameEntries`, `InStep.refile` — changes of an id in both, of the
  roster alone, and of the place of an entity.
* `InStep.spawnUnit`, `InStep.relocate`, `InStep.tick`, `InStep.cull` and the others — every
  operation keeps roster and index in step.
* `InStep.query` — a query lists the owned entities that meet the region, in ascending order.
-/

namespace Skirmish

/-! ### Turns -/

namespace GameUnit

/-- What a tick makes of a unit on a map, and whether the unit has moved.  A unit that has moved is
kept inside the map and projected. -/
def turn (map : Map) (u : GameUnit) : Except Fault (GameUnit × Bool) := do
  let (u, moved) ← u.tick
  if moved then do
    let fitted ← map.clamp u.bounds
    .ok ((u.settle fitted.center).project map.view, true)
  else .ok (u, false)

/-- A turn is a tick, after which the unit may be put to another place. -/
theorem of_turn {map : Map} {u u' : GameUnit} {moved : Bool} (h : u.turn map = .ok (u', moved)) :
    ∃ u₁, u.tick = .ok (u₁, moved) ∧
      (moved = false ∧ u' = u₁ ∨
        moved = true ∧ ∃ fitted, map.clamp u₁.bounds = .ok fitted ∧
          u' = (u₁.settle fitted.center).project map.view) := by
  obtain ⟨⟨u₁, walked⟩, stepped, h⟩ := Checked.bind_eq_ok_iff.mp h
  cases walked with
  | false =>
    obtain ⟨rfl, rfl⟩ := Prod.mk.inj (Except.ok.inj h)
    exact ⟨u₁, stepped, .inl ⟨rfl, rfl⟩⟩
  | true =>
    obtain ⟨fitted, clamped, h⟩ := Checked.bind_eq_ok_iff.mp h
    obtain ⟨rfl, rfl⟩ := Prod.mk.inj (Except.ok.inj h)
    exact ⟨u₁, stepped, .inr ⟨rfl, fitted, clamped, rfl⟩⟩

theorem id_turn {map : Map} {u u' : GameUnit} {moved : Bool} (h : u.turn map = .ok (u', moved)) :
    u'.id = u.id := by
  obtain ⟨u₁, stepped, h⟩ := of_turn h
  have hid : u₁.id = u.id := congrArg Entry.id (Entry.ofUnit_tick stepped).1
  rcases h with ⟨-, rfl⟩ | ⟨-, fitted, -, rfl⟩
  · exact hid
  · exact (congrArg Entry.id (Entry.ofUnit_settle u₁ fitted.center)).trans hid

end GameUnit

namespace World

/-! ### What the operations can do -/

section

variable {w w' : World} {id : EntityId}

/-- All that there is in an empty world. -/
theorem of_onMap {map : Map} {capacity : Nat} (started : World.onMap map capacity = .ok w) :
    ∃ area, map.bounds = .ok area ∧
      w = { map, roster := .empty, index := .empty area capacity, selected := none } := by
  simp only [World.onMap, Checked.bind_eq_ok_iff, Except.ok.injEq] at started
  obtain ⟨area, bounds, eq⟩ := started
  exact ⟨area, bounds, eq.symm⟩

/-- An order changes the unit that takes it. -/
theorem of_moveUnit {target shift : Point} {ordered : Bool}
    (order : w.moveUnit id target shift = .ok (ordered, w')) :
    w' = w ∨ ∃ u u' aim, w.unit? id = some u ∧ u.order? aim shift = some u' ∧
      w' = { w with roster := w.roster.setUnit u' } := by
  unfold moveUnit at order
  split at order
  case h_1 =>
    obtain ⟨-, rfl⟩ := Prod.mk.inj (Except.ok.inj order)
    exact .inl rfl
  case h_2 u found =>
    obtain ⟨fitted, -, order⟩ := Checked.bind_eq_ok_iff.mp order
    split at order
    case h_1 u' accepted =>
      obtain ⟨-, rfl⟩ := Prod.mk.inj (Except.ok.inj order)
      exact .inr ⟨u, u', fitted.center, found, accepted, rfl⟩
    case h_2 =>
      obtain ⟨-, rfl⟩ := Prod.mk.inj (Except.ok.inj order)
      exact .inl rfl

/-- A teleported unit is put inside the map and filed there. -/
theorem of_relocate {target : Point} {filed : Bool}
    (relocation : w.relocate id target = .ok (filed, w')) :
    w' = w ∨ ∃ u u' fitted index, w.unit? id = some u ∧
      w.map.clamp (u.bounds.moveTo target) = .ok fitted ∧
      u' = (u.place fitted.center).project w.map.view ∧
      w.index.update .unit u'.id u'.bounds = .ok (filed, index) ∧
      w' = { w with roster := w.roster.setUnit u', index } := by
  unfold relocate at relocation
  split at relocation
  case h_1 =>
    obtain ⟨-, rfl⟩ := Prod.mk.inj (Except.ok.inj relocation)
    exact .inl rfl
  case h_2 u found =>
    simp only [Checked.bind_eq_ok_iff] at relocation
    obtain ⟨fitted, clamped, ⟨isFiled, index⟩, updated, relocation⟩ := relocation
    obtain ⟨rfl, rfl⟩ := Prod.mk.inj (Except.ok.inj relocation)
    exact .inr ⟨u, _, fitted, index, found, clamped, rfl, updated, rfl⟩

/-- The same for a particle. -/
theorem of_relocateParticle {target : Point} {filed : Bool}
    (relocation : w.relocateParticle id target = .ok (filed, w')) :
    w' = w ∨ ∃ p p' fitted index, w.particle? id = some p ∧
      w.map.clamp (p.bounds.moveTo target) = .ok fitted ∧
      p' = Particle.project w.map.view { p with pos := fitted.center } ∧
      w.index.update .particle p'.id p'.bounds = .ok (filed, index) ∧
      w' = { w with roster := w.roster.setParticle p', index } := by
  unfold relocateParticle at relocation
  split at relocation
  case h_1 =>
    obtain ⟨-, rfl⟩ := Prod.mk.inj (Except.ok.inj relocation)
    exact .inl rfl
  case h_2 p found =>
    simp only [Checked.bind_eq_ok_iff] at relocation
    obtain ⟨fitted, clamped, ⟨isFiled, index⟩, updated, relocation⟩ := relocation
    obtain ⟨rfl, rfl⟩ := Prod.mk.inj (Except.ok.inj relocation)
    exact .inr ⟨p, _, fitted, index, found, clamped, rfl, updated, rfl⟩

/-- Damage changes the unit that takes it. -/
theorem of_damage (w : World) (id : EntityId) (amount : UInt32) :
    (w.damage id amount).2 = w ∨ ∃ u, w.unit? id = some u ∧
      (w.damage id amount).2 = { w with roster := w.roster.setUnit (u.damage amount) } := by
  unfold damage
  split
  case h_1 => exact .inl rfl
  case h_2 u found => exact .inr ⟨u, found, rfl⟩

/-- A harvest changes the unit that gives it. -/
theorem of_harvest (w : World) (id : EntityId) (request : UInt32) :
    (w.harvest id request).2 = w ∨ ∃ u u' taken, w.unit? id = some u ∧
      u.harvest? request = some (taken, u') ∧
      (w.harvest id request).2 = { w with roster := w.roster.setUnit u' } := by
  unfold harvest
  split
  case h_1 => exact .inl rfl
  case h_2 taken u' harvested =>
    obtain ⟨u, found, harvested⟩ := Option.bind_eq_some_iff.mp harvested
    exact .inr ⟨u, u', taken, found, harvested, rfl⟩

/-- The unit takes its turn, and the index may follow. -/
theorem of_tickUnit {u : GameUnit} {moved : Bool} (ticked : w.tickUnit u = .ok (moved, w')) :
    ∃ u' index, u.turn w.map = .ok (u', moved) ∧
      w' = { w with roster := w.roster.setUnit u', index } := by
  obtain ⟨⟨u₁, walked⟩, stepped, ticked⟩ := Checked.bind_eq_ok_iff.mp ticked
  rw [GameUnit.turn, stepped, Checked.ok_bind]
  cases walked with
  | false =>
    obtain ⟨rfl, rfl⟩ := Prod.mk.inj (Except.ok.inj ticked)
    exact ⟨u₁, w.index, rfl, rfl⟩
  | true =>
    obtain ⟨fitted, clamped, ticked⟩ := Checked.bind_eq_ok_iff.mp ticked
    obtain ⟨⟨filed, index⟩, -, ticked⟩ := Checked.bind_eq_ok_iff.mp ticked
    obtain ⟨rfl, rfl⟩ := Prod.mk.inj (Except.ok.inj ticked)
    exact ⟨_, index, by simp only [if_true, clamped, Checked.ok_bind], rfl⟩

/-- What holds of a world, and of every world that the tick of one of its units makes of it, holds
of the world after a whole tick. -/
theorem tick_induction {P : World → Prop} {t : Ticking} (h : P w) (ticked : w.tick = .ok t)
    (step : ∀ {w w' : World} {id u moved}, P w → w.unit? id = some u →
      w.tickUnit u = .ok (moved, w') → P w') : P t.world := by
  refine Checked.foldlM_induction (P := fun state => P state.world) ?_ h ticked
  intro state id state' h stepped
  unfold Ticking.step at stepped
  split at stepped
  case h_1 =>
    obtain rfl := Except.ok.inj stepped
    exact h
  case h_2 u found =>
    obtain ⟨⟨moved, world⟩, ticked, stepped⟩ := Checked.bind_eq_ok_iff.mp stepped
    obtain rfl := Except.ok.inj stepped
    exact step h found ticked

end

/-- Roster and index agree, and the index covers the playable area. -/
structure InStep (w : World) : Prop where
  sound : w.index.Sound
  bounds : w.map.bounds = .ok w.index.area
  lookup? : ∀ kind id, w.index.lookup? kind id = w.roster.owned? kind id

namespace InStep

variable {w w' : World} {kind : EntityKind} {id : EntityId} {e : Entry} {u u' : GameUnit}
  {p p' : Particle} {roster : Roster} {index : Quadtree}

/-- An empty world is in step. -/
theorem onMap {map : Map} {capacity : Nat} (h : World.onMap map capacity = .ok w) : w.InStep := by
  obtain ⟨area, bounds, rfl⟩ := of_onMap h
  refine ⟨Quadtree.sound_single area _, bounds, ?_⟩
  intro kind id
  rw [Roster.owned?_empty]
  exact Quadtree.lookup?_single area _

theorem inner (h : w.InStep) : w.index.area.Inner := Map.inner_bounds h.bounds

theorem id_eq (h : w.InStep) (held : w.roster.owned? kind id = some e) : e.id = id :=
  h.sound.id_of_lookup?_eq_some ((h.lookup? kind id).trans held)

theorem unit_id (h : w.InStep) (found : w.unit? id = some u) : u.id = id :=
  h.id_eq (Roster.owned?_of_unit? found)

theorem particle_id (h : w.InStep) (found : w.particle? id = some p) : p.id = id :=
  h.id_eq (Roster.owned?_of_particle? found)

/-! ### Changes of both -/

/-- Roster and index change in the same way at one id. -/
theorem rebinds (h : w.InStep) {r : Option Entry} (hi : w.index.Rebinds index kind id r)
    (hr : ∀ k id', roster.owned? k id' = if k = kind ∧ id' = id then r else w.roster.owned? k id') :
    InStep { w with roster, index } where
  sound := hi.sound
  bounds := by rw [hi.area]; exact h.bounds
  lookup? k id' := by rw [hi.lookup?_eq, hr, h.lookup?]

/-- The roster changes and the index does not see it. -/
theorem of_sameEntries (h : w.InStep) (same : w.roster.SameEntries roster) :
    InStep { w with roster } where
  sound := h.sound
  bounds := h.bounds
  lookup? k id := by rw [same, h.lookup?]

/-- A unit changes and its entry stays. -/
theorem sameEntries_setUnit (h : w.InStep) (same : w.roster.SameEntries roster)
    (found : roster.unit? id = some u) (entry : Entry.ofUnit u' = Entry.ofUnit u) :
    w.roster.SameEntries (roster.setUnit u') := by
  intro k id'
  have held := Roster.owned?_of_unit? found
  have hid : u.id = id := h.id_eq ((same .unit id).symm.trans held)
  have hid' : u'.id = id := (congrArg Entry.id entry).trans hid
  rw [Roster.owned?_setUnit]
  split
  case isTrue key => rw [key.1, key.2, hid', ← same, held, entry]
  case isFalse => exact same k id'

/-- A particle changes and its entry stays. -/
theorem sameEntries_setParticle (h : w.InStep) (same : w.roster.SameEntries roster)
    (found : roster.particle? id = some p) (entry : Entry.ofParticle p' = Entry.ofParticle p) :
    w.roster.SameEntries (roster.setParticle p') := by
  intro k id'
  have held := Roster.owned?_of_particle? found
  have hid : p.id = id := h.id_eq ((same .particle id).symm.trans held)
  have hid' : p'.id = id := (congrArg Entry.id entry).trans hid
  rw [Roster.owned?_setParticle]
  split
  case isTrue key => rw [key.1, key.2, hid', ← same, held, entry]
  case isFalse => exact same k id'

theorem setUnit (h : w.InStep) (found : w.unit? id = some u)
    (entry : Entry.ofUnit u' = Entry.ofUnit u) :
    InStep { w with roster := w.roster.setUnit u' } :=
  h.of_sameEntries (h.sameEntries_setUnit (.refl w.roster) found entry)

/-! ### Inside the map -/

/-- An owned entity fits the map, so it lies inside after clamping, wherever it is put. -/
theorem covers_clamp (h : w.InStep) {b fitted : Box} (held : w.roster.owned? kind id = some e)
    (half : b.half = e.box.half) (clamped : w.map.clamp b = .ok fitted) :
    w.index.area.Covers fitted ∧ fitted = b.moveTo fitted.center := by
  simp only [Map.clamp, h.bounds, Checked.ok_bind] at clamped
  -- what is filed is covered by the area, so it is not larger
  have filed := h.sound.lookup?_eq_some_iff.mp ((h.lookup? kind id).trans held)
  have fits := h.inner.half_le_of_covers (h.sound.area_covers filed.1)
  rw [← half] at fits
  exact ⟨Map.clampTo_covers h.inner fits clamped, Map.eq_moveTo_of_clampTo clamped⟩

/-- An owned entity is put to a place inside the map, and the index follows. -/
theorem refile (h : w.InStep) {box : Box} {filed : Bool}
    (held : w.roster.owned? kind id = some e) (covers : w.index.area.Covers box)
    (updated : w.index.update kind id box = .ok (filed, index))
    (hr : ∀ k id', roster.owned? k id'
      = if k = kind ∧ id' = id then some { e with box } else w.roster.owned? k id') :
    filed = true ∧ InStep { w with roster, index } := by
  obtain ⟨isFiled, rebinds⟩ := (h.sound.update kind id box).of_eq_ok updated
  rw [h.lookup?, held, Entry.relocated, if_pos covers, Option.map_some] at isFiled rebinds
  exact ⟨isFiled, h.rebinds rebinds hr⟩

/-! ### Spawning and erasing -/

theorem spawnUnit {build : EntityId → Except Fault GameUnit} {spawned : Option EntityId}
    (h : w.InStep) (spawn : w.spawnUnit build = .ok (spawned, w')) : w'.InStep := by
  simp only [World.spawnUnit, Checked.bind_eq_ok_iff] at spawn
  obtain ⟨⟨u, roster⟩, drafted, fitted, -, ⟨filed, index⟩, put, spawn⟩ := spawn
  have still (hk : EntityKind.unit = .particle) (e : Entry) : e.mobile = false := by cases hk
  rcases h.sound.of_put_eq_ok (fun hk => still hk _) put with ⟨rfl, -, rebinds⟩ | ⟨rfl, rfl⟩
  · obtain ⟨-, rfl⟩ := Prod.mk.inj (Except.ok.inj spawn)
    refine h.rebinds rebinds ?_
    intro k id
    rw [Roster.owned?_setUnit, Roster.sameEntries_draftUnit drafted]
    rfl
  · -- a draft that is not filed is not owned either
    obtain ⟨-, rfl⟩ := Prod.mk.inj (Except.ok.inj spawn)
    exact h.of_sameEntries (Roster.sameEntries_draftUnit drafted)

theorem spawnParticle {build : EntityId → Except Fault Particle} {spawned : Option EntityId}
    (h : w.InStep) (spawn : w.spawnParticle build = .ok (spawned, w')) : w'.InStep := by
  simp only [World.spawnParticle, Checked.bind_eq_ok_iff] at spawn
  obtain ⟨⟨p, roster⟩, drafted, fitted, -, ⟨filed, index⟩, put, spawn⟩ := spawn
  rcases h.sound.of_put_eq_ok (fun _ => rfl) put with ⟨rfl, -, rebinds⟩ | ⟨rfl, rfl⟩
  · obtain ⟨-, rfl⟩ := Prod.mk.inj (Except.ok.inj spawn)
    refine h.rebinds rebinds ?_
    intro k id
    rw [Roster.owned?_setParticle, Roster.sameEntries_draftParticle drafted]
    rfl
  · obtain ⟨-, rfl⟩ := Prod.mk.inj (Except.ok.inj spawn)
    exact h.of_sameEntries (Roster.sameEntries_draftParticle drafted)

theorem deselect (h : w.InStep) (id : EntityId) : (w.deselect id).InStep := by
  unfold World.deselect
  split
  · exact ⟨h.sound, h.bounds, h.lookup?⟩
  · exact h

theorem erase {erased : Bool} (h : w.InStep) (erasure : w.erase id = .ok (erased, w')) :
    w'.InStep := by
  have h := h.deselect id
  obtain ⟨index, erased, rebinds⟩ := h.sound.erase .unit id
  simp only [World.erase, erased, Checked.ok_bind] at erasure
  obtain ⟨-, rfl⟩ := Prod.mk.inj (Except.ok.inj erasure)
  exact h.rebinds rebinds fun k id' => Roster.owned?_removeUnit _

theorem eraseParticle {erased : Bool} (h : w.InStep)
    (erasure : w.eraseParticle id = .ok (erased, w')) : w'.InStep := by
  obtain ⟨index, erased, rebinds⟩ := h.sound.erase .particle id
  simp only [World.eraseParticle, erased, Checked.ok_bind] at erasure
  obtain ⟨-, rfl⟩ := Prod.mk.inj (Except.ok.inj erasure)
  exact h.rebinds rebinds fun k id' => Roster.owned?_removeParticle _

/-! ### Orders and effects -/

theorem moveUnit {target shift : Point} {ordered : Bool} (h : w.InStep)
    (order : w.moveUnit id target shift = .ok (ordered, w')) : w'.InStep := by
  rcases of_moveUnit order with rfl | ⟨u, u', aim, found, accepted, rfl⟩
  · exact h
  · exact h.setUnit found (Entry.ofUnit_order accepted)

/-- A unit that is put to a place inside the map keeps its entry there. -/
theorem refileUnit (h : w.InStep) {fitted : Box} {filed : Bool} (found : w.unit? id = some u)
    (covers : w.index.area.Covers fitted)
    (entry : Entry.ofUnit u' = { Entry.ofUnit u with box := fitted })
    (updated : w.index.update .unit u'.id u'.bounds = .ok (filed, index)) :
    filed = true ∧ InStep { w with roster := w.roster.setUnit u', index } := by
  have hid : u'.id = id := (congrArg Entry.id entry).trans (h.unit_id found)
  have hbox : u'.bounds = fitted := congrArg Entry.box entry
  rw [hid, hbox] at updated
  refine h.refile (Roster.owned?_of_unit? found) covers updated ?_
  intro k id'
  rw [Roster.owned?_setUnit, hid, entry]

/-- The same for a particle. -/
theorem refileParticle (h : w.InStep) {fitted : Box} {filed : Bool}
    (found : w.particle? id = some p) (covers : w.index.area.Covers fitted)
    (entry : Entry.ofParticle p' = { Entry.ofParticle p with box := fitted })
    (updated : w.index.update .particle p'.id p'.bounds = .ok (filed, index)) :
    filed = true ∧ InStep { w with roster := w.roster.setParticle p', index } := by
  have hid : p'.id = id := (congrArg Entry.id entry).trans (h.particle_id found)
  have hbox : p'.bounds = fitted := congrArg Entry.box entry
  rw [hid, hbox] at updated
  refine h.refile (Roster.owned?_of_particle? found) covers updated ?_
  intro k id'
  rw [Roster.owned?_setParticle, hid, entry]

theorem relocate {target : Point} {filed : Bool} (h : w.InStep)
    (relocation : w.relocate id target = .ok (filed, w')) : w'.InStep := by
  rcases of_relocate relocation with rfl | ⟨u, _, fitted, _, found, clamped, rfl, updated, rfl⟩
  · exact h
  · have half : (u.bounds.moveTo target).half = (Entry.ofUnit u).box.half := rfl
    obtain ⟨covers, here⟩ := h.covers_clamp (Roster.owned?_of_unit? found) half clamped
    refine (h.refileUnit found covers ?_ updated).2
    rw [Entry.ofUnit_project, Entry.ofUnit_place, here]
    rfl

theorem relocateParticle {target : Point} {filed : Bool} (h : w.InStep)
    (relocation : w.relocateParticle id target = .ok (filed, w')) : w'.InStep := by
  rcases of_relocateParticle relocation with
    rfl | ⟨p, _, fitted, _, found, clamped, rfl, updated, rfl⟩
  · exact h
  · have half : (p.bounds.moveTo target).half = (Entry.ofParticle p).box.half := rfl
    obtain ⟨covers, here⟩ := h.covers_clamp (Roster.owned?_of_particle? found) half clamped
    refine (h.refileParticle found covers ?_ updated).2
    rw [Entry.ofParticle_project, Entry.ofParticle_place, here]
    rfl

theorem damage (h : w.InStep) (id : EntityId) (amount : UInt32) :
    (w.damage id amount).2.InStep := by
  rcases of_damage w id amount with eq | ⟨u, found, eq⟩ <;> rw [eq]
  · exact h
  · exact h.setUnit found (Entry.ofUnit_damage amount u)

theorem harvest (h : w.InStep) (id : EntityId) (request : UInt32) :
    (w.harvest id request).2.InStep := by
  rcases of_harvest w id request with eq | ⟨u, u', taken, found, harvested, eq⟩ <;> rw [eq]
  · exact h
  · exact h.setUnit found (Entry.ofUnit_harvest harvested)

/-! ### Looking -/

theorem rebuildIndex (h : w.InStep) (rebuilt : w.rebuildIndex = .ok w') : w'.InStep := by
  simp only [World.rebuildIndex, Checked.bind_eq_ok_iff, Except.ok.injEq] at rebuilt
  obtain ⟨index, rebuilt, rfl⟩ := rebuilt
  obtain ⟨s, same⟩ := h.sound.rebuild.of_eq_ok rebuilt
  refine ⟨s, ?_, ?_⟩
  · rw [same.area]
    exact h.bounds
  · intro kind id
    rw [← h.lookup?]
    exact h.sound.lookup?_congr s fun k e => same.holds_iff

theorem reshapeViewport (h : w.InStep) (x y width height : Int32) :
    (w.reshapeViewport x y width height).InStep := ⟨h.sound, h.bounds, h.lookup?⟩

theorem select (h : w.InStep) (id : Option EntityId) : (w.select id).InStep :=
  ⟨h.sound, h.bounds, h.lookup?⟩

theorem selectAt {screen : Point} (h : w.InStep) (selection : w.selectAt screen = .ok w') :
    w'.InStep := by
  simp only [World.selectAt, Checked.bind_eq_ok_iff, Except.ok.injEq] at selection
  obtain ⟨candidates, -, rfl⟩ := selection
  have same : w.roster.SameEntries
      (candidates.foldl (consider w.map.view screen) (none, w.roster)).2 := by
    refine List.foldlRecOn (motive := fun state => w.roster.SameEntries state.2) candidates
      (consider w.map.view screen) ?_ ?_
    · exact .refl w.roster
    · intro state same id _
      unfold consider
      split
      case h_1 => exact same
      case h_2 u found =>
        exact h.sameEntries_setUnit same found (Entry.ofUnit_project w.map.view u)
  exact ⟨h.sound, h.bounds, (h.of_sameEntries same).lookup?⟩

/-- A query lists the owned entities that meet the region, in ascending order. -/
theorem query (h : w.InStep) (kind : EntityKind) (region : Box) :
    ∃ ids, w.query kind region = .ok ids ∧ EntityId.Ascending ids ∧
      ∀ id, id ∈ ids ↔ ∃ e, w.roster.owned? kind id = some e ∧ e.box.Meets region := by
  obtain ⟨hits, found, nodup, mem⟩ := h.sound.query kind region []
  refine ⟨EntityId.sort hits, ?_, EntityId.ascending_sort nodup, ?_⟩
  · rw [World.query, found, List.nil_append, Checked.map_ok]
  · intro id
    rw [EntityId.mem_sort, mem, h.lookup?]

/-! ### Frames -/

theorem tickUnit {moved : Bool} (h : w.InStep) (found : w.unit? id = some u)
    (ticked : w.tickUnit u = .ok (moved, w')) : w'.InStep := by
  simp only [World.tickUnit, Checked.bind_eq_ok_iff] at ticked
  obtain ⟨⟨u₁, hasMoved⟩, stepped, ticked⟩ := ticked
  obtain ⟨entry, still⟩ := Entry.ofUnit_tick stepped
  split at ticked
  case isTrue =>
    simp only [Checked.bind_eq_ok_iff] at ticked
    obtain ⟨fitted, clamped, ⟨filed, index⟩, updated, ticked⟩ := ticked
    obtain ⟨-, rfl⟩ := Prod.mk.inj (Except.ok.inj ticked)
    have box : u₁.bounds = u.bounds.moveTo u₁.pos := congrArg Entry.box entry
    have half : u₁.bounds.half = (Entry.ofUnit u).box.half := by rw [box]; rfl
    obtain ⟨covers, here⟩ := h.covers_clamp (Roster.owned?_of_unit? found) half clamped
    refine (h.refileUnit found covers ?_ updated).2
    rw [Entry.ofUnit_project, Entry.ofUnit_settle, entry, here]
    rfl
  case isFalse stays =>
    -- the unit stands where it stood, whatever else the tick has changed
    obtain ⟨-, rfl⟩ := Prod.mk.inj (Except.ok.inj ticked)
    refine h.setUnit found ?_
    rw [entry, still (by simpa using stays)]
    rfl

theorem tick {ticking : Ticking} (h : w.InStep) (ticked : w.tick = .ok ticking) :
    ticking.world.InStep :=
  tick_induction (P := InStep) h ticked fun h found => h.tickUnit found

theorem cull {list : DrawList} (h : w.InStep) (culled : w.cull = .ok (list, w')) : w'.InStep := by
  simp only [World.cull, Checked.bind_eq_ok_iff] at culled
  obtain ⟨particles, -, units, -, culled⟩ := culled
  obtain ⟨-, rfl⟩ := Prod.mk.inj (Except.ok.inj culled)
  have first : w.roster.SameEntries
      (particles.foldl (projectParticle w.map.view) w.roster) := by
    refine List.foldlRecOn (motive := w.roster.SameEntries) particles
      (projectParticle w.map.view) (.refl w.roster) ?_
    intro roster same id _
    unfold projectParticle
    split
    case h_1 p found =>
      exact h.sameEntries_setParticle same found (Entry.ofParticle_project w.map.view p)
    case h_2 => exact same
  refine h.of_sameEntries ?_
  refine List.foldlRecOn (motive := fun state => w.roster.SameEntries state.roster) units
    (Culling.step w.map.view) ?_ ?_
  · exact first
  · intro state same id _
    unfold Culling.step
    split
    case h_1 => exact same
    case h_2 u found =>
      split
      case isTrue => exact same
      case isFalse => exact h.sameEntries_setUnit same found (Entry.ofUnit_project w.map.view u)

theorem frame {framed : Framed} (h : w.InStep) (shown : w.frame = .ok framed) :
    framed.world.InStep := by
  simp only [World.frame, Checked.bind_eq_ok_iff, Except.ok.injEq] at shown
  obtain ⟨ticking, ticked, ⟨list, world⟩, culled, rfl⟩ := shown
  exact (h.tick ticked).cull culled

end InStep

end World

end Skirmish
