import Skirmish.Proofs.World.Founding
import Skirmish.Proofs.World.Lasting

/-!
# Ids are never used again

The number of the next id only grows, and whatever is owned has a smaller one.  An entity is built
under the id that is handed out for it and under no other, even if it is discarded then.  So an id
that was handed out and is owned no more cannot come back: not by a later spawn, which takes a
greater number, and not by any other operation, since none of them brings an entity into the world.
The index, the selection and every reply name owned entities only, so they do not name it either.

## Main definitions

* `World.issued` — the ids that a run hands out.
* `World.Op.SpawnsUnder` — the one id under which an operation has an entity built.
* `World.Reply.Reports` — the ids that a reply names.
* `World.Op.Retires` — an operation that uses up an id for good.
* `World.Lacks` — no trace of an id is in a world.
* `Roster.Succeeds` — a roster that another one has become, ids being handed out in between.

## Main results

* `Numbered.perform` — what an operation does to the ids of a world.
* `Op.spawnsUnder_issued`, `forall₂_spawned_issued` — the ids that are handed out are those under
  which entities are built, and those that spawns reply.
* `InStep.owns_of_reports` — whatever a reply names is owned.
* `Numbered.run`, `Numbered.lacks_of_run` — what a run does to the ids, and to one that is used up.
* `ids_of_run` — every run of every world that can be reached.
-/

namespace Skirmish

/-! ### Rosters -/

namespace Roster

/-- An entity of either family is owned under an id. -/
def Owns (r : Roster) (id : EntityId) : Prop := (r.unit? id).isSome ∨ (r.particle? id).isSome

/-- Ids are handed out in ascending order, each of them for one entity. -/
structure Numbered (r : Roster) : Prop where
  old : ∀ {id}, r.Owns id → id.number < r.next
  apart : ∀ id, r.unit? id = none ∨ r.particle? id = none

/-- A roster becomes another one: what is owned then was owned before, or it is owned under an id
that has been handed out in between, for one entity. -/
structure Succeeds (r r' : Roster) : Prop where
  next : r.next ≤ r'.next
  unit : ∀ {id}, (r'.unit? id).isSome → (r.unit? id).isSome ∨
    r.next ≤ id.number ∧ id.number < r'.next ∧ r'.particle? id = none
  particle : ∀ {id}, (r'.particle? id).isSome → (r.particle? id).isSome ∨
    r.next ≤ id.number ∧ id.number < r'.next ∧ r'.unit? id = none

variable {r r' : Roster} {id : EntityId} {u : GameUnit} {p : Particle}

theorem numbered_empty : empty.Numbered where
  old owned := by simp [Owns, unit?, particle?, empty] at owned
  apart id := .inl (by simp [unit?, empty])

/-- The next id is not owned yet. -/
theorem Numbered.not_owns_next (h : r.Numbered) : ¬ r.Owns ⟨r.next⟩ :=
  fun owned => UInt32.lt_irrefl _ (h.old owned)

theorem Succeeds.numbered (h : r.Succeeds r') (numbered : r.Numbered) : r'.Numbered where
  old {id} owned := by
    have old (before : r.Owns id) : id.number < r'.next :=
      UInt32.lt_of_lt_of_le (numbered.old before) h.next
    rcases owned with unit | particle
    · rcases h.unit unit with before | ⟨-, lt, -⟩
      · exact old (.inl before)
      · exact lt
    · rcases h.particle particle with before | ⟨-, lt, -⟩
      · exact old (.inr before)
      · exact lt
  apart id := by
    rw [← Option.not_isSome_iff_eq_none, ← Option.not_isSome_iff_eq_none, ← not_and_or]
    rintro ⟨unit, particle⟩
    rcases h.unit unit with unit' | ⟨-, -, none⟩
    · rcases h.particle particle with particle' | ⟨-, -, none⟩
      · rcases numbered.apart id with none | none
        · rw [none] at unit'
          cases unit'
        · rw [none] at particle'
          cases particle'
      · rw [none] at unit
        cases unit
    · rw [none] at particle
      cases particle

/-- An id that was handed out and is not owned is not owned later either. -/
theorem Succeeds.not_owns (h : r.Succeeds r') (old : id.number < r.next) (gone : ¬ r.Owns id) :
    ¬ r'.Owns id := by
  rintro (unit | particle)
  · rcases h.unit unit with before | ⟨le, -, -⟩
    · exact gone (.inl before)
    · exact UInt32.not_lt.mpr le old
  · rcases h.particle particle with before | ⟨le, -, -⟩
    · exact gone (.inr before)
    · exact UInt32.not_lt.mpr le old

theorem Keeps.succeeds {β : Type} {f : GameUnit → β} (h : r.Keeps f r') : r.Succeeds r' where
  next := h.next ▸ UInt32.le_refl _
  unit {id} owned := .inl (h.isSome_unit id ▸ owned)
  particle {id} owned := .inl (h.particle id ▸ owned)

/-! ### New ids -/

/-- The entities are built as before, but under one id there is a fault instead. -/
def refusing {α : Type} (id : EntityId) (fault : Fault) (build : EntityId → Except Fault α)
    (id' : EntityId) : Except Fault α :=
  if id' = id then .error fault else build id'

section

variable {α β : Type} {fault : Fault}

/-- What is built under the next id is built under no other id. -/
theorem issue_bind_refusing (r : Roster) (build : EntityId → Except Fault α)
    (next : EntityId × Roster → α → Except Fault β) :
    (r.issue >>= fun i => refusing id fault build i.1 >>= next i)
      = if r.issue.toOption.map Prod.fst = some id then .error fault
        else r.issue >>= fun i => build i.1 >>= next i := by
  cases r.issue with
  | error f => rfl
  | ok i =>
    have handed : (Except.ok i : Except Fault _).toOption.map Prod.fst = some i.1 := rfl
    rw [Checked.ok_bind, Checked.ok_bind, refusing, handed]
    by_cases eq : i.1 = id
    · rw [if_pos eq, if_pos (congrArg some eq), Checked.error_bind]
    · rw [if_neg eq, if_neg fun h => eq (Option.some.inj h)]

theorem draftUnit_refusing (r : Roster) (build : EntityId → Except Fault GameUnit) :
    r.draftUnit (refusing id fault build)
      = if r.issue.toOption.map Prod.fst = some id then .error fault else r.draftUnit build :=
  r.issue_bind_refusing build fun i u =>
    if u.id = i.1 then .ok (u, i.2) else .error (.foreignId .unit u.id i.1)

theorem draftParticle_refusing (r : Roster) (build : EntityId → Except Fault Particle) :
    r.draftParticle (refusing id fault build)
      = if r.issue.toOption.map Prod.fst = some id then .error fault else r.draftParticle build :=
  r.issue_bind_refusing build fun i p =>
    if p.id = i.1 then .ok (p, i.2) else .error (.foreignId .particle p.id i.1)

end

section

variable (room : r.next.toNat + 1 < UInt32.size)
include room

theorem next_lt_next_issued : r.next < r.issued.next := by
  rw [UInt32.lt_iff_toNat_lt, toNat_next_issued room]
  omega

/-- An id is handed out and not used. -/
theorem succeeds_issued : r.Succeeds r.issued where
  next := UInt32.le_of_lt (next_lt_next_issued room)
  unit owned := .inl owned
  particle owned := .inl owned

/-- An id is handed out to a unit. -/
theorem Numbered.succeeds_setUnit (numbered : r.Numbered) (new : u.id = ⟨r.next⟩) :
    r.Succeeds (r.issued.setUnit u) where
  next := UInt32.le_of_lt (next_lt_next_issued room)
  unit {id} owned := by
    rw [unit?_setUnit] at owned
    split at owned
    case isTrue eq =>
      obtain rfl : id = ⟨r.next⟩ := eq.trans new
      refine .inr ⟨UInt32.le_refl _, next_lt_next_issued room, ?_⟩
      rw [← Option.not_isSome_iff_eq_none]
      exact fun owned => numbered.not_owns_next (.inr owned)
    case isFalse => exact .inl owned
  particle owned := .inl owned

/-- An id is handed out to a particle. -/
theorem Numbered.succeeds_setParticle (numbered : r.Numbered) (new : p.id = ⟨r.next⟩) :
    r.Succeeds (r.issued.setParticle p) where
  next := UInt32.le_of_lt (next_lt_next_issued room)
  unit owned := .inl owned
  particle {id} owned := by
    rw [particle?_setParticle] at owned
    split at owned
    case isTrue eq =>
      obtain rfl : id = ⟨r.next⟩ := eq.trans new
      refine .inr ⟨UInt32.le_refl _, next_lt_next_issued room, ?_⟩
      rw [← Option.not_isSome_iff_eq_none]
      exact fun owned => numbered.not_owns_next (.inl owned)
    case isFalse => exact .inl owned

end

/-! ### Removal -/

theorem succeeds_removeUnit (r : Roster) (id : EntityId) : r.Succeeds (r.removeUnit id) where
  next := UInt32.le_refl _
  unit {id'} owned := by
    rw [unit?_removeUnit] at owned
    split at owned
    case isTrue => cases owned
    case isFalse => exact .inl owned
  particle owned := .inl owned

theorem succeeds_removeParticle (r : Roster) (id : EntityId) :
    r.Succeeds (r.removeParticle id) where
  next := UInt32.le_refl _
  unit owned := .inl owned
  particle {id'} owned := by
    rw [particle?_removeParticle] at owned
    split at owned
    case isTrue => cases owned
    case isFalse => exact .inl owned

end Roster

namespace World

variable {w w₁ w' : World} {op : Op} {reply : Option Reply} {id : EntityId}

/-! ### Operations -/

/-- The selected unit is owned. -/
def SelectsOwned (w : World) : Prop := ∀ id, w.selected = some id → (w.unit? id).isSome

/-- A world whose ids have been handed out in ascending order, each for one entity, and which
selects no other ids. -/
structure Numbered (w : World) : Prop where
  inStep : w.InStep
  roster : w.roster.Numbered
  selected : w.SelectsOwned

/-- The id that an operation hands out, whether the entity built under it fits the map or not. -/
def Op.issued (w : World) (op : Op) : Option EntityId :=
  if op.isSpawn then w.roster.issue.toOption.map Prod.fst else none

theorem Keeps.selectsOwned {β : Type} {f : GameUnit → β} (h : w.Keeps f w')
    (owned : w.SelectsOwned) : w'.SelectsOwned := by
  intro id selected
  rw [World.unit?, h.roster.isSome_unit]
  exact owned id (h.selected ▸ selected)

/-- What keeps the entities keeps the numbering. -/
theorem Numbered.of_keeps {β : Type} {f : GameUnit → β} (h : w.Numbered) (inStep : w'.InStep)
    (keeps : w.Keeps f w') : w'.Numbered ∧ w.roster.Succeeds w'.roster :=
  ⟨⟨inStep, keeps.roster.succeeds.numbered h.roster, keeps.selectsOwned h.selected⟩,
    keeps.roster.succeeds⟩

theorem Numbered.of_evolves (h : w.Numbered) (inStep : w'.InStep) (evolves : w.Evolves w') :
    w'.Numbered ∧ w.roster.Succeeds w'.roster :=
  h.of_keeps inStep (evolves.keeps GameUnit.isLasting_health)

/-- A world that still owns its units and selects the same is numbered if the roster is. -/
theorem Numbered.of_succeeds (h : w.Numbered) (inStep : w'.InStep)
    (succeeds : w.roster.Succeeds w'.roster) (selected : w'.selected = w.selected)
    (owned : ∀ id, (w.unit? id).isSome → (w'.unit? id).isSome) : w'.Numbered := by
  refine ⟨inStep, succeeds.numbered h.roster, ?_⟩
  intro id chosen
  exact owned id (h.selected id (selected ▸ chosen))

/-- A unit is spawned: its id is new, and greater than those before. -/
theorem Numbered.spawnUnit {build : EntityId → Except Fault GameUnit} {spawned : Option EntityId}
    (h : w.Numbered) (spawn : w.spawnUnit build = .ok (spawned, w')) :
    w'.Numbered ∧ w.roster.Succeeds w'.roster ∧ w.roster.next < w'.roster.next := by
  have inStep := h.inStep.spawnUnit spawn
  obtain ⟨u, room, -, selected, ⟨-, roster⟩ | ⟨u', -, new, -, roster⟩⟩ := of_spawnUnit spawn
  · have succeeds := Roster.succeeds_issued room
    rw [← roster] at succeeds
    refine ⟨h.of_succeeds inStep succeeds selected ?_, succeeds,
      roster ▸ Roster.next_lt_next_issued room⟩
    intro id owned
    rw [World.unit?, roster]
    exact owned
  · have succeeds := h.roster.succeeds_setUnit room new
    rw [← roster] at succeeds
    refine ⟨h.of_succeeds inStep succeeds selected ?_, succeeds,
      roster ▸ Roster.next_lt_next_issued room⟩
    intro id owned
    rw [World.unit?, roster, Roster.unit?_setUnit]
    split
    case isTrue => rfl
    case isFalse => exact owned

/-- A particle is spawned. -/
theorem Numbered.spawnParticle {build : EntityId → Except Fault Particle}
    {spawned : Option EntityId} (h : w.Numbered)
    (spawn : w.spawnParticle build = .ok (spawned, w')) :
    w'.Numbered ∧ w.roster.Succeeds w'.roster ∧ w.roster.next < w'.roster.next := by
  have inStep := h.inStep.spawnParticle spawn
  obtain ⟨p, room, -, selected, ⟨-, roster⟩ | ⟨p', -, new, -, roster⟩⟩ := of_spawnParticle spawn
  · have succeeds := Roster.succeeds_issued room
    rw [← roster] at succeeds
    refine ⟨h.of_succeeds inStep succeeds selected ?_, succeeds,
      roster ▸ Roster.next_lt_next_issued room⟩
    intro id owned
    rw [World.unit?, roster]
    exact owned
  · have succeeds := h.roster.succeeds_setParticle room new
    rw [← roster] at succeeds
    refine ⟨h.of_succeeds inStep succeeds selected ?_, succeeds,
      roster ▸ Roster.next_lt_next_issued room⟩
    intro id owned
    rw [World.unit?, roster]
    exact owned

/-- The selection does not outlive its unit. -/
theorem Numbered.erase {erased : Bool} (h : w.Numbered)
    (erasure : w.erase id = .ok (erased, w')) :
    w'.Numbered ∧ w.roster.Succeeds w'.roster := by
  obtain ⟨-, roster, selected⟩ := h.inStep.of_erase erasure
  have succeeds := w.roster.succeeds_removeUnit id
  rw [← roster] at succeeds
  refine ⟨⟨h.inStep.erase erasure, succeeds.numbered h.roster, ?_⟩, succeeds⟩
  intro id' chosen
  rw [selected] at chosen
  split at chosen
  case isTrue => cases chosen
  case isFalse other =>
    have ne : id' ≠ id := by
      rintro rfl
      exact other chosen
    rw [World.unit?, roster, Roster.unit?_removeUnit, if_neg ne]
    exact h.selected id' chosen

theorem Numbered.eraseParticle {erased : Bool} (h : w.Numbered)
    (erasure : w.eraseParticle id = .ok (erased, w')) :
    w'.Numbered ∧ w.roster.Succeeds w'.roster := by
  obtain ⟨-, roster, selected⟩ := h.inStep.of_eraseParticle erasure
  have succeeds := w.roster.succeeds_removeParticle id
  rw [← roster] at succeeds
  refine ⟨⟨h.inStep.eraseParticle erasure, succeeds.numbered h.roster, ?_⟩, succeeds⟩
  intro id' chosen
  rw [World.unit?, roster]
  exact h.selected id' (selected ▸ chosen)

/-- What an operation does to the ids of a world. -/
theorem Numbered.perform (h : w.Numbered) (performed : op.perform w = .ok (reply, w')) :
    w'.Numbered ∧ w.roster.Succeeds w'.roster ∧ (op.isSpawn → w.roster.next < w'.roster.next) := by
  have s := h.inStep
  have inStep := s.perform performed
  have quiet (result : w'.Numbered ∧ w.roster.Succeeds w'.roster) (none : op.isSpawn = false) :
      w'.Numbered ∧ w.roster.Succeeds w'.roster ∧ (op.isSpawn → w.roster.next < w'.roster.next) :=
    ⟨result.1, result.2, fun spawns => absurd (spawns.symm.trans none) nofun⟩
  cases op with
  | spawnUnit build =>
    obtain ⟨⟨spawned, w₁⟩, spawn, -, rfl⟩ := Checked.of_map_eq_ok performed
    obtain ⟨numbered, succeeds, lt⟩ := h.spawnUnit spawn
    exact ⟨numbered, succeeds, fun _ => lt⟩
  | spawnParticle build =>
    obtain ⟨⟨spawned, w₁⟩, spawn, -, rfl⟩ := Checked.of_map_eq_ok performed
    obtain ⟨numbered, succeeds, lt⟩ := h.spawnParticle spawn
    exact ⟨numbered, succeeds, fun _ => lt⟩
  | erase id =>
    obtain ⟨⟨erased, w₁⟩, erasure, -, rfl⟩ := Checked.of_map_eq_ok performed
    exact quiet (h.erase erasure) rfl
  | eraseParticle id =>
    obtain ⟨⟨erased, w₁⟩, erasure, -, rfl⟩ := Checked.of_map_eq_ok performed
    exact quiet (h.eraseParticle erasure) rfl
  | moveUnit id target shift =>
    obtain ⟨⟨ordered, w₁⟩, order, -, rfl⟩ := Checked.of_map_eq_ok performed
    exact quiet (h.of_evolves inStep (s.evolves_moveUnit order)) rfl
  | relocate id target =>
    obtain ⟨⟨filed, w₁⟩, relocation, -, rfl⟩ := Checked.of_map_eq_ok performed
    exact quiet (h.of_evolves inStep (s.evolves_relocate relocation)) rfl
  | relocateParticle id target =>
    obtain ⟨⟨filed, w₁⟩, relocation, -, rfl⟩ := Checked.of_map_eq_ok performed
    exact quiet (h.of_evolves inStep (s.evolves_relocateParticle relocation)) rfl
  | damage id amount =>
    obtain ⟨-, rfl⟩ := Prod.mk.inj (Except.ok.inj performed)
    exact quiet (h.of_keeps inStep (s.keeps_damage (f := GameUnit.id) amount (fun _ => rfl) id)) rfl
  | harvest id request =>
    obtain ⟨-, rfl⟩ := Prod.mk.inj (Except.ok.inj performed)
    exact quiet (h.of_keeps inStep (s.keeps_harvest request GameUnit.health_harvest id)) rfl
  | query kind region =>
    obtain ⟨ids, -, -, rfl⟩ := Checked.of_map_eq_ok performed
    exact quiet (h.of_evolves inStep (.refl w)) rfl
  | rebuildIndex =>
    obtain ⟨w₁, rebuilt, -, rfl⟩ := Checked.of_map_eq_ok performed
    exact quiet (h.of_evolves inStep (InStep.evolves_rebuildIndex rebuilt)) rfl
  | reshapeViewport x y width height =>
    obtain ⟨-, rfl⟩ := Prod.mk.inj (Except.ok.inj performed)
    exact quiet (h.of_evolves inStep ⟨.refl w.roster, rfl⟩) rfl
  | select id =>
    obtain ⟨-, rfl⟩ := Prod.mk.inj (Except.ok.inj performed)
    have keeps := Roster.Keeps.refl GameUnit.health w.roster
    refine quiet ⟨⟨inStep, h.roster, ?_⟩, keeps.succeeds⟩ rfl
    intro id' chosen
    exact (Option.filter_eq_some_iff.mp chosen).2
  | selectAt screen =>
    obtain ⟨w₁, selection, -, rfl⟩ := Checked.of_map_eq_ok performed
    obtain ⟨evolves, selected⟩ := s.of_selectAt selection
    have keeps := evolves.keeps GameUnit.isLasting_health
    exact quiet ⟨⟨inStep, keeps.succeeds.numbered h.roster, selected⟩, keeps.succeeds⟩ rfl
  | tick =>
    obtain ⟨t, ticked, -, rfl⟩ := Checked.of_map_eq_ok performed
    exact quiet (h.of_evolves inStep (s.evolves_tick ticked)) rfl
  | cull =>
    obtain ⟨⟨list, w₁⟩, culled, -, rfl⟩ := Checked.of_map_eq_ok performed
    exact quiet (h.of_evolves inStep (s.evolves_cull culled)) rfl
  | draw list =>
    obtain ⟨-, rfl⟩ := Prod.mk.inj (Except.ok.inj performed)
    exact quiet (h.of_evolves inStep (.refl w)) rfl
  | frame =>
    obtain ⟨framed, shown, -, rfl⟩ := Checked.of_map_eq_ok performed
    exact quiet (h.of_evolves inStep (s.evolves_frame shown)) rfl

/-! ### Spawning under the id that is handed out -/

/-- The operation as before, but with a fault instead of what is built under one id. -/
def Op.refusing (id : EntityId) (fault : Fault) : Op → Op
  | spawnUnit build => spawnUnit (Roster.refusing id fault build)
  | spawnParticle build => spawnParticle (Roster.refusing id fault build)
  | op => op

/-- What a spawn replies. -/
def Reply.spawned? : Reply → Option (Option EntityId)
  | spawned id => some id
  | _ => none

/-- An operation spawns an entity under an id, or it spawns none. -/
structure Op.SpawnsUnder (w : World) (op : Op) (id? : Option EntityId) : Prop where
  /-- The entity is built under this id and under no other, be it discarded or not. -/
  built : ∀ id fault,
    (op.refusing id fault).perform w = if id? = some id then .error fault else op.perform w
  /-- The reply to a spawn is this id, if the entity is there, and no id if it is discarded. -/
  replied : ∀ reply w', op.perform w = .ok (reply, w') →
    Option.Rel (fun spawned id => spawned = none ∨ spawned = some id ∧ w'.roster.Owns id)
      (reply.bind Reply.spawned?) id?

theorem Op.issued_of_isSpawn (h : op.isSpawn) :
    op.issued w = w.roster.issue.toOption.map Prod.fst := if_pos h

theorem Op.issued_of_room (h : op.isSpawn) (room : w.roster.next.toNat + 1 < UInt32.size) :
    op.issued w = some ⟨w.roster.next⟩ := by
  rw [issued_of_isSpawn h, Roster.issue, if_pos room]
  rfl

theorem Op.of_issued_eq_some (h : op.issued w = some id) :
    op.isSpawn ∧ id = ⟨w.roster.next⟩ := by
  unfold issued at h
  split at h
  case isTrue spawns =>
    cases handed : w.roster.issue with
    | error fault =>
      rw [handed] at h
      cases h
    | ok r =>
      rw [handed] at h
      exact ⟨spawns, (Option.some.inj h).symm.trans (Roster.of_issue handed).2.1⟩
  case isFalse => cases h

theorem Op.perform_refusing (op : Op) (w : World) (id : EntityId) (fault : Fault) :
    (op.refusing id fault).perform w
      = if op.issued w = some id then .error fault else op.perform w := by
  cases op with
  | spawnUnit build =>
    rw [refusing, perform, perform, World.spawnUnit, World.spawnUnit, Roster.draftUnit_refusing,
      issued_of_isSpawn rfl]
    split
    case isTrue handed => rfl
    case isFalse => rfl
  | spawnParticle build =>
    rw [refusing, perform, perform, World.spawnParticle, World.spawnParticle,
      Roster.draftParticle_refusing, issued_of_isSpawn rfl]
    split
    case isTrue handed => rfl
    case isFalse => rfl
  | _ => rfl

/-- Every operation spawns under the id that it hands out. -/
theorem Op.spawnsUnder_issued (op : Op) (w : World) : op.SpawnsUnder w (op.issued w) := by
  refine ⟨op.perform_refusing w, ?_⟩
  intro reply w' performed
  cases op with
  | spawnUnit build =>
    obtain ⟨⟨spawned, w₁⟩, spawn, rfl, rfl⟩ := Checked.of_map_eq_ok performed
    obtain ⟨u, room, -, -, ⟨none, -⟩ | ⟨u', some, hid, -, roster⟩⟩ := of_spawnUnit spawn
    · rw [issued_of_room rfl room]
      exact .some (.inl none)
    · rw [issued_of_room rfl room]
      refine .some (.inr ⟨some, .inl ?_⟩)
      rw [roster, Roster.unit?_setUnit, if_pos hid.symm]
      rfl
  | spawnParticle build =>
    obtain ⟨⟨spawned, w₁⟩, spawn, rfl, rfl⟩ := Checked.of_map_eq_ok performed
    obtain ⟨p, room, -, -, ⟨none, -⟩ | ⟨p', some, hid, -, roster⟩⟩ := of_spawnParticle spawn
    · rw [issued_of_room rfl room]
      exact .some (.inl none)
    · rw [issued_of_room rfl room]
      refine .some (.inr ⟨some, .inr ?_⟩)
      rw [roster, Roster.particle?_setParticle, if_pos hid.symm]
      rfl
  | erase | eraseParticle | moveUnit | relocate | relocateParticle | query | rebuildIndex | selectAt
  | tick | cull | frame =>
    obtain ⟨_, -, rfl, -⟩ := Checked.of_map_eq_ok performed
    exact .none
  | damage | harvest | reshapeViewport | select | draw =>
    obtain ⟨rfl, -⟩ := Prod.mk.inj (Except.ok.inj performed)
    exact .none

/-- An id that a spawn replies has been handed out, and the entity is owned under it. -/
theorem Op.of_spawned (performed : op.perform w = .ok (some (.spawned (some id)), w')) :
    op.issued w = some id ∧ w'.roster.Owns id := by
  have replied := (op.spawnsUnder_issued w).replied _ _ performed
  generalize op.issued w = id? at replied
  cases replied with
  | some replied =>
    rcases replied with none | ⟨same, owned⟩
    · cases none
    · obtain rfl := Option.some.inj same
      exact ⟨rfl, owned⟩

end World

/-! ### Replies -/

/-- A picture shows an entity, by a sprite or by its marker. -/
def Picture.Shows (p : Picture) (id : EntityId) : Prop :=
  (∃ s ∈ p.sprites, s.entity = id) ∨ ∃ box, p.marker = some (id, box)

theorem GameUnit.entity_of_mem_sprites {v : Viewport} {u : GameUnit} {s : Sprite}
    (mem : s ∈ u.sprites v) : s.entity = u.id := by
  unfold sprites at mem
  split at mem
  case h_1 o kind =>
    rcases List.mem_pair.mp mem with rfl | rfl <;> rfl
  case h_2 =>
    rw [List.mem_singleton.mp mem]
    rfl

namespace World

variable {w w₁ w' : World} {op : Op} {reply : Option Reply} {id : EntityId}

/-- The ids that a reply names. -/
def Reply.Reports (id : EntityId) : Reply → Prop
  | spawned found => found = some id
  | listed ids => id ∈ ids
  | picked found => found = some id
  | culled list => id ∈ list.particles ∨ id ∈ list.units
  | drawn picture => picture.Shows id
  | framed picture _ => picture.Shows id
  | done _ | killed _ | taken _ | ticked _ _ => False

/-- A picture shows owned entities only, whatever it is drawn from. -/
theorem InStep.owns_of_shows (h : w.InStep) {list : DrawList} (shows : (w.draw list).Shows id) :
    w.roster.Owns id := by
  have unit {id' : EntityId} {u : GameUnit} (found : w.unit? id' = some u) (eq : u.id = id) :
      w.roster.Owns id := by
    obtain rfl : id' = id := (h.unit_id found).symm.trans eq
    exact .inl (Option.isSome_of_eq_some found)
  rcases shows with ⟨s, mem, rfl⟩ | ⟨box, mark⟩
  · rcases List.mem_append.mp mem with mem | mem
    · obtain ⟨p, listed, rfl⟩ := List.mem_map.mp mem
      obtain ⟨id', -, found⟩ := List.mem_filterMap.mp listed
      obtain rfl := h.particle_id found
      exact .inr (Option.isSome_of_eq_some found)
    · obtain ⟨u, mem, drawn⟩ := List.mem_flatMap.mp mem
      obtain ⟨id', -, found⟩ := List.mem_filterMap.mp mem
      exact unit found (GameUnit.entity_of_mem_sprites drawn).symm
  · obtain ⟨u, drawn, mark⟩ := Option.map_eq_some_iff.mp mark
    obtain ⟨id', -, found⟩ := Option.bind_eq_some_iff.mp drawn
    exact unit found (congrArg Prod.fst mark)

/-- Whatever a reply names is owned after the operation. -/
theorem InStep.owns_of_reports (h : w.InStep) {reply : Reply}
    (performed : op.perform w = .ok (some reply, w')) (reports : reply.Reports id) :
    w'.roster.Owns id := by
  have inStep := h.perform performed
  cases op with
  | spawnUnit | spawnParticle =>
    obtain ⟨⟨spawned, w₁⟩, -, ⟨⟩, -⟩ := Checked.of_map_eq_ok performed
    obtain rfl : spawned = some id := reports
    exact (Op.of_spawned performed).2
  | query kind region =>
    obtain ⟨ids, listed, ⟨⟩, rfl⟩ := Checked.of_map_eq_ok performed
    obtain ⟨ids', listed', -, mem⟩ := h.query kind region
    obtain rfl : ids' = ids := Except.ok.inj (listed'.symm.trans listed)
    obtain ⟨e, held, -⟩ := (mem id).mp reports
    cases kind with
    | unit => exact .inl (Option.isSome_map .. ▸ Option.isSome_of_eq_some held)
    | particle => exact .inr (Option.isSome_map .. ▸ Option.isSome_of_eq_some held)
  | selectAt screen =>
    obtain ⟨w₁, selection, ⟨⟩, rfl⟩ := Checked.of_map_eq_ok performed
    exact .inl ((h.of_selectAt selection).2 id reports)
  | cull =>
    obtain ⟨⟨list, w₁⟩, culled, ⟨⟩, rfl⟩ := Checked.of_map_eq_ok performed
    have evolves := (h.evolves_cull culled).roster
    obtain ⟨roster, done, -⟩ := h.exists_cull
    obtain ⟨rfl, -⟩ := Prod.mk.inj (Except.ok.inj (done.symm.trans culled))
    rcases reports with mem | mem
    · obtain ⟨p, listed, rfl⟩ := List.mem_map.mp mem
      have found := (h.keyed.mem_particlesIn.mp listed).1
      exact .inr ((isSome_of_rel (evolves.particle p.id)).trans (Option.isSome_of_eq_some found))
    · obtain ⟨u, listed, rfl⟩ := List.mem_map.mp mem
      have found := (h.keyed.mem_liveIn.mp listed).1
      exact .inl ((isSome_of_rel (evolves.unit u.id)).trans (Option.isSome_of_eq_some found))
  | draw list =>
    obtain ⟨⟨⟩, rfl⟩ := Prod.mk.inj (Except.ok.inj performed)
    exact h.owns_of_shows reports
  | frame =>
    obtain ⟨framed, shown, ⟨⟩, rfl⟩ := Checked.of_map_eq_ok performed
    simp only [World.frame, Checked.bind_eq_ok_iff, Except.ok.injEq] at shown
    obtain ⟨t, -, ⟨list, world⟩, -, rfl⟩ := shown
    exact inStep.owns_of_shows reports
  | damage | harvest =>
    obtain ⟨⟨⟩, -⟩ := Prod.mk.inj (Except.ok.inj performed)
    exact False.elim reports
  | reshapeViewport | select =>
    obtain ⟨⟨⟩, -⟩ := Prod.mk.inj (Except.ok.inj performed)
  | rebuildIndex =>
    obtain ⟨w₁, -, ⟨⟩, -⟩ := Checked.of_map_eq_ok performed
  | erase | eraseParticle | moveUnit | relocate | relocateParticle | tick =>
    obtain ⟨_, -, ⟨⟩, -⟩ := Checked.of_map_eq_ok performed
    exact False.elim reports

/-! ### Runs -/

/-- The ids that a run hands out, in the order in which it does. -/
def issued : List Op → World → List EntityId
  | [], _ => []
  | op :: ops, w =>
    (op.issued w).toList ++ match op.perform w with
      | .ok (_, w) => issued ops w
      | .error _ => []

theorem Numbered.run {ops : List Op} {replies : List Reply} (h : w.Numbered)
    (ran : World.run ops w = .ok (replies, w')) : w'.Numbered := by
  induction ops generalizing w replies with
  | nil =>
    obtain ⟨-, rfl⟩ := Prod.mk.inj (Except.ok.inj ran)
    exact h
  | cons op ops ih =>
    simp only [World.run, Checked.bind_eq_ok_iff, Except.ok.injEq, Prod.mk.injEq] at ran
    obtain ⟨⟨reply, w₁⟩, performed, ⟨rest, w₂⟩, ran, -, rfl⟩ := ran
    exact ih (h.perform performed).1 ran

/-- A run hands out new ids, in ascending order. -/
theorem Numbered.ascending_issued (h : w.Numbered) (ops : List Op) :
    EntityId.Ascending (issued ops w) ∧ ∀ id ∈ issued ops w, w.roster.next ≤ id.number := by
  induction ops generalizing w with
  | nil => exact ⟨List.Pairwise.nil, fun _ mem => absurd mem List.not_mem_nil⟩
  | cons op ops ih =>
    have first {id : EntityId} (mem : id ∈ (op.issued w).toList) :
        op.isSpawn ∧ id = ⟨w.roster.next⟩ := Op.of_issued_eq_some (Option.mem_toList.mp mem)
    have alone : EntityId.Ascending (op.issued w).toList := by
      cases op.issued w with
      | none => exact List.Pairwise.nil
      | some id => exact List.pairwise_singleton _ id
    rw [issued]
    cases performed : op.perform w with
    | error fault =>
      dsimp only
      rw [List.append_nil]
      exact ⟨alone, fun id mem => (first mem).2 ▸ UInt32.le_refl _⟩
    | ok r =>
      obtain ⟨reply, w₁⟩ := r
      obtain ⟨numbered, succeeds, grows⟩ := h.perform performed
      obtain ⟨ascending, above⟩ := ih numbered
      refine ⟨List.pairwise_append.mpr ⟨alone, ascending, ?_⟩, ?_⟩
      · intro id mem id' mem'
        obtain ⟨spawns, rfl⟩ := first mem
        exact UInt32.lt_of_lt_of_le (grows spawns) (above id' mem')
      · intro id mem
        rcases List.mem_append.mp mem with mem | mem
        · exact (first mem).2 ▸ UInt32.le_refl _
        · exact UInt32.le_trans succeeds.next (above id mem)

/-- The spawns of a run reply the ids that it hands out, or nothing, in the order in which it hands
them out. -/
theorem forall₂_spawned_issued {ops : List Op} {replies : List Reply}
    (ran : World.run ops w = .ok (replies, w')) :
    List.Forall₂ (fun spawned id => spawned = none ∨ spawned = some id)
      (replies.filterMap Reply.spawned?) (issued ops w) := by
  induction ops generalizing w replies with
  | nil =>
    obtain ⟨rfl, -⟩ := Prod.mk.inj (Except.ok.inj ran)
    exact .nil
  | cons op ops ih =>
    simp only [World.run, Checked.bind_eq_ok_iff, Except.ok.injEq, Prod.mk.injEq] at ran
    obtain ⟨⟨reply, w₁⟩, performed, ⟨rest, w₂⟩, ran, rfl, rfl⟩ := ran
    have replied := (op.spawnsUnder_issued w).replied reply w₁ performed
    have first : reply.toList.filterMap Reply.spawned? = (reply.bind Reply.spawned?).toList := by
      cases reply with
      | none => rfl
      | some reply =>
        rw [Option.toList_some, List.filterMap_cons, List.filterMap_nil, Option.bind_some]
        cases reply.spawned? <;> rfl
    rw [issued, performed, List.filterMap_append, first]
    generalize reply.bind Reply.spawned? = spawned? at replied
    generalize op.issued w = id? at replied
    cases replied with
    | none => exact ih ran
    | some replied => exact .cons (replied.imp_right And.left) (ih ran)

/-- No trace of an id is in a world. -/
structure Lacks (w : World) (id : EntityId) : Prop where
  unit? : w.unit? id = none
  particle? : w.particle? id = none
  contains : ∀ kind, w.index.contains kind id = false
  holds : ∀ kind e, w.index.Holds kind e → e.id ≠ id
  selected : w.selected ≠ some id
  selected? : ∀ u, w.selected? = some u → u.id ≠ id

/-- What is not owned has left no trace. -/
theorem Numbered.lacks (h : w.Numbered) (gone : ¬ w.roster.Owns id) : w.Lacks id := by
  obtain ⟨noUnit, noParticle⟩ := not_or.mp gone
  have unit : w.unit? id = none := Option.not_isSome_iff_eq_none.mp noUnit
  have particle : w.particle? id = none := Option.not_isSome_iff_eq_none.mp noParticle
  have agrees := h.inStep.agrees
  have selected : w.selected ≠ some id := by
    intro chosen
    exact noUnit (h.selected id chosen)
  refine ⟨unit, particle, ?_, ?_, selected, ?_⟩
  · intro kind
    cases kind with
    | unit => rw [agrees.contains_unit, unit, Option.isSome_none]
    | particle => rw [agrees.contains_particle, particle, Option.isSome_none]
  · rintro kind e held rfl
    cases kind with
    | unit =>
      obtain ⟨u, found, -⟩ := (agrees.holds_unit e).mp held
      rw [unit] at found
      cases found
    | particle =>
      obtain ⟨p, found, -⟩ := (agrees.holds_particle e).mp held
      rw [particle] at found
      cases found
  · rintro u found rfl
    obtain ⟨id', chosen, found⟩ := Option.bind_eq_some_iff.mp found
    obtain rfl := h.inStep.unit_id found
    exact selected chosen

/-- An id that was handed out and is not owned does not come back in a run. -/
theorem Numbered.lacks_of_run {ops : List Op} {replies : List Reply} (h : w.Numbered)
    (old : id.number < w.roster.next) (gone : ¬ w.roster.Owns id)
    (ran : World.run ops w = .ok (replies, w')) :
    w'.Lacks id ∧ ∀ reply ∈ replies, ¬ reply.Reports id := by
  induction ops generalizing w replies with
  | nil =>
    obtain ⟨rfl, rfl⟩ := Prod.mk.inj (Except.ok.inj ran)
    exact ⟨h.lacks gone, fun _ mem => absurd mem List.not_mem_nil⟩
  | cons op ops ih =>
    simp only [World.run, Checked.bind_eq_ok_iff, Except.ok.injEq, Prod.mk.injEq] at ran
    obtain ⟨⟨reply, w₁⟩, performed, ⟨rest, w₂⟩, ran, rfl, rfl⟩ := ran
    obtain ⟨numbered, succeeds, -⟩ := h.perform performed
    have gone₁ := succeeds.not_owns old gone
    obtain ⟨lacks, silent⟩ := ih numbered (UInt32.lt_of_lt_of_le old succeeds.next) gone₁ ran
    refine ⟨lacks, ?_⟩
    intro reply' mem
    rcases List.mem_append.mp mem with mem | mem
    · obtain rfl := Option.mem_toList.mp mem
      exact fun reports => gone₁ (h.inStep.owns_of_reports performed reports)
    · exact silent reply' mem

/-! ### Ids that are used up -/

/-- An operation that uses up an id for good: an entity is erased, or a spawn fails. -/
def Op.Retires (w : World) (id : EntityId) : Op → Option Reply → Prop
  | erase id', some (.done true) => id' = id
  | eraseParticle id', some (.done true) => id' = id
  | spawnUnit build, some (.spawned none) => (spawnUnit build).issued w = some id
  | spawnParticle build, some (.spawned none) => (spawnParticle build).issued w = some id
  | _, _ => False

/-- After an operation that uses up an id, it has been handed out and is not owned. -/
theorem Numbered.of_retires (h : w.Numbered) (performed : op.perform w = .ok (reply, w'))
    (retires : op.Retires w id reply) : id.number < w'.roster.next ∧ ¬ w'.roster.Owns id := by
  obtain ⟨numbered, succeeds, grows⟩ := h.perform performed
  -- what was owned before is smaller than the next id, and so is what is handed out
  have old (owned : w.roster.Owns id) : id.number < w'.roster.next :=
    UInt32.lt_of_lt_of_le (h.roster.old owned) succeeds.next
  have new (fresh : op.issued w = some id) : id.number < w'.roster.next := by
    obtain ⟨spawns, rfl⟩ := Op.of_issued_eq_some fresh
    exact grows spawns
  have unused (fresh : op.issued w = some id) : ¬ w.roster.issued.Owns id := by
    obtain ⟨-, rfl⟩ := Op.of_issued_eq_some fresh
    exact h.roster.not_owns_next
  unfold Op.Retires at retires
  split at retires
  case h_1 id' =>
    subst retires
    obtain ⟨⟨erased, w₁⟩, erasure, ⟨⟩, rfl⟩ := Checked.of_map_eq_ok performed
    obtain ⟨owned, roster, -⟩ := h.inStep.of_erase erasure
    refine ⟨old (.inl owned.symm), ?_⟩
    rw [roster]
    rintro (unit | particle)
    · rw [Roster.unit?_removeUnit, if_pos rfl] at unit
      cases unit
    · rcases h.roster.apart id' with none | none
      · rw [World.unit?, none] at owned
        cases owned
      · rw [Roster.particle?_removeUnit, none] at particle
        cases particle
  case h_2 id' =>
    subst retires
    obtain ⟨⟨erased, w₁⟩, erasure, ⟨⟩, rfl⟩ := Checked.of_map_eq_ok performed
    obtain ⟨owned, roster, -⟩ := h.inStep.of_eraseParticle erasure
    refine ⟨old (.inr owned.symm), ?_⟩
    rw [roster]
    rintro (unit | particle)
    · rcases h.roster.apart id' with none | none
      · rw [Roster.unit?_removeParticle, none] at unit
        cases unit
      · rw [World.particle?, none] at owned
        cases owned
    · rw [Roster.particle?_removeParticle, if_pos rfl] at particle
      cases particle
  case h_3 build =>
    obtain ⟨⟨spawned, w₁⟩, spawn, ⟨⟩, rfl⟩ := Checked.of_map_eq_ok performed
    obtain ⟨u, -, -, -, ⟨-, roster⟩ | ⟨u', some, -⟩⟩ := of_spawnUnit spawn
    · exact ⟨new retires, roster ▸ unused retires⟩
    · cases some
  case h_4 build =>
    obtain ⟨⟨spawned, w₁⟩, spawn, ⟨⟩, rfl⟩ := Checked.of_map_eq_ok performed
    obtain ⟨p, -, -, -, ⟨-, roster⟩ | ⟨p', some, -⟩⟩ := of_spawnParticle spawn
    · exact ⟨new retires, roster ▸ unused retires⟩
    · cases some
  case h_5 => exact False.elim retires

/-! ### Reachable worlds -/

theorem numbered_onMap {map : Map} {capacity : Nat} (started : World.onMap map capacity = .ok w) :
    w.Numbered := by
  have inStep : w.InStep := .onMap started
  obtain ⟨area, -, rfl⟩ := of_onMap started
  refine ⟨inStep, Roster.numbered_empty, fun id selected => ?_⟩
  cases selected

theorem isFounding_numbered : IsFounding Numbered where
  remap h same := ⟨isFounding_inStep.remap h.inStep same, h.roster, h.selected⟩
  spawn _ _ h spawned := (h.spawnUnit spawned).1

theorem Reachable.numbered (h : w.Reachable) : w.Numbered := by
  induction h with
  | onMap started => exact numbered_onMap started
  | generate generated => exact isFounding_numbered.generateBy numbered_onMap generated
  | perform _ performed ih => exact (ih.perform performed).1

/-- In every run the ids are handed out in ascending order, spawns that fail included, and they are
greater than those of the entities that are there.  They are what the spawns reply if they do not
fail, and each of them is the one id under which its entity is built, be it discarded or not.  At
every time an id names one entity, which carries it, and the selection is the id of an owned unit.
An id that is used up leaves no trace, and nothing that is done later brings it back or makes a
reply name it. -/
theorem ids_of_run {ops : List Op} {replies : List Reply} (reachable : w.Reachable)
    (ran : run ops w = .ok (replies, w')) :
    (EntityId.Ascending (issued ops w) ∧
      ∀ id ∈ issued ops w, ∀ id', w.roster.Owns id' → id'.number < id.number) ∧
    List.Forall₂ (fun spawned id => spawned = none ∨ spawned = some id)
      (replies.filterMap Reply.spawned?) (issued ops w) ∧
    (∀ (op : Op) (v : World), op.SpawnsUnder v (op.issued v)) ∧
    (∀ id, w'.unit? id = none ∨ w'.particle? id = none) ∧
    (∀ id u, w'.unit? id = some u → u.id = id) ∧
    (∀ id p, w'.particle? id = some p → p.id = id) ∧
    (∀ id, w'.selected = some id → ∃ u, w'.unit? id = some u) ∧
    ∀ (op : Op) reply w₁ id, op.perform w' = .ok (reply, w₁) → op.Retires w' id reply →
      w₁.Lacks id ∧ ∀ later replies' w₂, run later w₁ = .ok (replies', w₂) →
        w₂.Lacks id ∧ id ∉ issued later w₁ ∧ ∀ r ∈ replies', ¬ r.Reports id := by
  have first := reachable.numbered
  have last := first.run ran
  obtain ⟨ascending, above⟩ := first.ascending_issued ops
  refine ⟨⟨ascending, ?_⟩, forall₂_spawned_issued ran, Op.spawnsUnder_issued, last.roster.apart,
    fun _ _ => last.inStep.unit_id, fun _ _ => last.inStep.particle_id, ?_, ?_⟩
  · intro id mem id' owned
    exact UInt32.lt_of_lt_of_le (first.roster.old owned) (above id mem)
  · intro id chosen
    exact Option.isSome_iff_exists.mp (last.selected id chosen)
  · intro op reply w₁ id performed retires
    have numbered := (last.perform performed).1
    obtain ⟨old, gone⟩ := last.of_retires performed retires
    refine ⟨numbered.lacks gone, ?_⟩
    intro later replies' w₂ ran'
    obtain ⟨lacks, silent⟩ := numbered.lacks_of_run old gone ran'
    refine ⟨lacks, ?_, silent⟩
    intro mem
    exact UInt32.not_lt.mpr ((numbered.ascending_issued later).2 id mem) old

/-- A villager, a giant that does not fit, and a piece of debris; the villager is selected. -/
def muster : List Op :=
  [.spawnUnit fun id => .ok (.villager id ⟨40, 40⟩ 1),
    .spawnUnit fun id => .ok (.mobile id 1 ⟨5, 7⟩ 0x7FFFFFFF .villagerStand .villagerWalk 2 1),
    .spawnParticle fun id => .ok (.debris id ⟨90, 40⟩ 3), .select (some ⟨1⟩)]

/-- What is asked for after the villager has left. -/
def roll : List Op :=
  [.query .unit (.centered 0 0 1000 1000), .select (some ⟨1⟩), .reshapeViewport 0 0 500 500,
    .spawnUnit fun id => .ok (.villager id ⟨40, 40⟩ 2), .selectAt ⟨40, 40⟩, .cull]

theorem ids_of_muster : ∃ w replies w' w₁ replies' w₂,
    onMap (Map.empty.resize .small) 1 = .ok w ∧ run muster w = .ok (replies, w') ∧
      replies = [.spawned (some ⟨1⟩), .spawned none, .spawned (some ⟨3⟩)] ∧
      issued muster w = [⟨1⟩, ⟨2⟩, ⟨3⟩] ∧ w'.selected = some ⟨1⟩ ∧
      (Op.erase ⟨1⟩).perform w' = .ok (some (.done true), w₁) ∧ run roll w₁ = .ok (replies', w₂) ∧
      replies' = [.listed [], .spawned (some ⟨4⟩), .picked (some ⟨4⟩),
        .culled ⟨[⟨3⟩], [⟨4⟩], 0⟩] ∧ w₂.Lacks ⟨1⟩ := by
  have ids : (onMap (Map.empty.resize .small) 1).map (issued muster)
      = .ok [⟨1⟩, ⟨2⟩, ⟨3⟩] := by
    decide +kernel
  have played : ((onMap (Map.empty.resize .small) 1 >>= run muster) >>= fun r =>
      (Op.erase ⟨1⟩).perform r.2 >>= fun r' => (run roll r'.2).map fun r'' =>
        (r.1, r.2.selected, r'.1, r''.1))
      = .ok ([.spawned (some ⟨1⟩), .spawned none, .spawned (some ⟨3⟩)], some ⟨1⟩,
        some (.done true), [.listed [], .spawned (some ⟨4⟩), .picked (some ⟨4⟩),
        .culled ⟨[⟨3⟩], [⟨4⟩], 0⟩]) := by
    decide +kernel
  obtain ⟨⟨replies, w'⟩, ran, played⟩ := Checked.bind_eq_ok_iff.mp played
  obtain ⟨⟨reply, w₁⟩, performed, played⟩ := Checked.bind_eq_ok_iff.mp played
  obtain ⟨⟨replies', w₂⟩, ran', seen⟩ := Checked.map_eq_ok_iff.mp played
  obtain ⟨w, started, ran⟩ := Checked.bind_eq_ok_iff.mp ran
  obtain ⟨spawned, seen⟩ := Prod.mk.inj seen
  obtain ⟨selected, seen⟩ := Prod.mk.inj seen
  obtain ⟨rfl, listed⟩ := Prod.mk.inj seen
  rw [started, Checked.map_ok] at ids
  obtain ⟨-, -, -, -, -, -, -, lasts⟩ := ids_of_run (.onMap started) ran
  obtain ⟨-, lacks⟩ := lasts _ _ _ ⟨1⟩ performed rfl
  exact ⟨w, replies, w', w₁, replies', w₂, started, ran, spawned, Except.ok.inj ids, selected,
    performed, ran', listed, (lacks _ _ _ ran').1⟩

end World

end Skirmish
