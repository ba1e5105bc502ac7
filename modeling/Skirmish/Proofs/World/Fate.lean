import Skirmish.Proofs.Entity.Runs
import Skirmish.Proofs.World.Lasting
import Skirmish.Proofs.World.Runs

/-!
# What an operation does to one entity

An operation of a world is looked at from the side of a single id.  Damage, a harvest or an erasure
that names the id has its effect, a spawn may bring something into being under it, and every other
operation leaves there what was there, or what has become of it.  All that is said of an entity over
a run of a world comes down to these few cases.

## Main definitions

* `World.Op.Spares` — an operation that neither erases nor damages nor harvests the unit of an id.
* `World.UnitFate`, `World.ParticleFate` — what an operation does to the unit and to the particle of
  an id.

## Main results

* `InStep.unit?_damage`, `InStep.unit?_harvest` — damage and harvests change one unit only.
* `InStep.fates` — every operation, for every id.
-/

namespace Skirmish

namespace World

variable {w w' : World} {op : Op} {reply : Option Reply} {id : EntityId}

/-! ### Damage and harvests -/

theorem damage_of_unit? {u : GameUnit} (owned : w.unit? id = some u) (amount : UInt32) :
    w.damage id amount
      = (some (u.diesOf amount), { w with roster := w.roster.setUnit (u.damage amount) }) := by
  rw [World.damage, owned]

/-- Damage is done to the unit of the id and to no other. -/
theorem InStep.unit?_damage (h : w.InStep) (id : EntityId) (amount : UInt32) (id' : EntityId) :
    (w.damage id amount).2.unit? id'
      = (w.unit? id').map fun u => if id' = id then u.damage amount else u := by
  cases owned : w.unit? id with
  | none =>
    rw [World.damage, owned]
    by_cases eq : id' = id
    · rw [eq, owned, Option.map_none]
    · simp only [if_neg eq, Option.map_id']
  | some u =>
    have hid : u.id = id := h.unit_id owned
    have same : (u.damage amount).id = id := hid
    rw [damage_of_unit? owned, World.unit?, Roster.unit?_setUnit, same]
    by_cases eq : id' = id
    · rw [if_pos eq, eq, owned, Option.map_some, if_pos rfl]
    · simp only [if_neg eq, Option.map_id']
      rfl

/-- A harvest is taken from the unit of the id and from no other. -/
theorem InStep.unit?_harvest (h : w.InStep) (id : EntityId) (request : UInt32) (id' : EntityId) :
    (w.harvest id request).2.unit? id'
      = (w.unit? id').map fun u => if id' = id then u.harvested request else u := by
  unfold World.harvest
  cases harvest : (w.unit? id).bind (GameUnit.harvest? request) with
  | none =>
    by_cases eq : id' = id
    · obtain rfl := eq
      simp only [if_pos]
      cases owned : w.unit? id' with
      | none => rw [Option.map_none]
      | some u =>
        rw [owned, Option.bind_some] at harvest
        rw [Option.map_some, GameUnit.harvested, harvest, Option.map_none, Option.getD_none]
    · simp only [if_neg eq, Option.map_id']
  | some taken =>
    obtain ⟨taken, u'⟩ := taken
    obtain ⟨u, owned, given⟩ := Option.bind_eq_some_iff.mp harvest
    have hid : u'.id = id :=
      (congrArg Entry.id (Entry.ofUnit_harvest given)).trans (h.unit_id owned)
    dsimp only
    rw [World.unit?, Roster.unit?_setUnit, hid]
    by_cases eq : id' = id
    · rw [if_pos eq, eq, owned, Option.map_some, if_pos rfl, GameUnit.harvested, given,
        Option.map_some, Option.getD_some]
    · simp only [if_neg eq, Option.map_id']
      rfl

/-! ### Fates -/

/-- The operation neither erases nor damages nor harvests the unit of an id. -/
def Op.Spares (id : EntityId) : Op → Prop
  | erase id' => id ≠ id'
  | damage id' _ => id ≠ id'
  | harvest id' _ => id ≠ id'
  | _ => True

/-- What an operation does to the unit of an id, from the one that is owned before to the one that
is owned after it. -/
inductive UnitFate (w : World) (id : EntityId) (reply : Option Reply)
    (before after : Option GameUnit) : Op → Prop
  | kept {op : Op} : op.Spares id → Option.Rel GameUnit.Becomes before after →
    UnitFate w id reply before after op
  | born {build : EntityId → Except Fault GameUnit} {u u' : GameUnit} :
    id = ⟨w.roster.next⟩ → build id = .ok u → u.Becomes u' → after = some u' →
    UnitFate w id reply before after (.spawnUnit build)
  | erased : after = none → UnitFate w id reply before after (.erase id)
  | damaged {amount : UInt32} : after = before.map (GameUnit.damage amount) →
    UnitFate w id reply before after (.damage id amount)
  | harvested {request : UInt32} :
    reply = some (.taken ((before.bind (GameUnit.harvest? request)).map Prod.fst)) →
    after = before.map (GameUnit.harvested request) →
    UnitFate w id reply before after (.harvest id request)

/-- What an operation does to the particle of an id. -/
inductive ParticleFate (w : World) (id : EntityId) (before after : Option Particle) : Op → Prop
  | kept {op : Op} : Option.Rel Particle.Becomes before after → ParticleFate w id before after op
  | born {build : EntityId → Except Fault Particle} {p p' : Particle} :
    id = ⟨w.roster.next⟩ → build id = .ok p → p.Becomes p' → after = some p' →
    ParticleFate w id before after (.spawnParticle build)
  | erased : after = none → ParticleFate w id before after (.eraseParticle id)

/-- What an operation does to the entities of all ids. -/
structure Fates (w : World) (op : Op) (reply : Option Reply) (w' : World) : Prop where
  unit : ∀ id, w.UnitFate id reply (w.unit? id) (w'.unit? id) op
  particle : ∀ id, w.ParticleFate id (w.particle? id) (w'.particle? id) op

/-- Under an operation that spares every unit, the entities evolve. -/
theorem Fates.of_evolves (evolves : w.roster.Evolves w'.roster) (spares : ∀ id, op.Spares id) :
    w.Fates op reply w' where
  unit id := .kept (spares id) (evolves.unit id)
  particle id := .kept (evolves.particle id)

theorem fates_spawnUnit {build : EntityId → Except Fault GameUnit} {spawned : Option EntityId}
    (spawn : w.spawnUnit build = .ok (spawned, w')) :
    w.Fates (.spawnUnit build) (some (.spawned spawned)) w' := by
  obtain ⟨u, -, built, -, ⟨-, roster⟩ | ⟨u', -, new, becomes, roster⟩⟩ := of_spawnUnit spawn
  · constructor <;> intro id
    · rw [World.unit?, World.unit?, roster]
      exact .kept trivial (rel_refl (fun _ => .refl) _)
    · rw [World.particle?, World.particle?, roster]
      exact .kept (rel_refl .refl _)
  · constructor <;> intro id
    · rw [World.unit?, World.unit?, roster, Roster.unit?_setUnit, new]
      split
      case isTrue eq => exact .born eq (eq ▸ built) becomes rfl
      case isFalse => exact .kept trivial (rel_refl (fun _ => .refl) _)
    · rw [World.particle?, World.particle?, roster]
      exact .kept (rel_refl .refl _)

theorem fates_spawnParticle {build : EntityId → Except Fault Particle} {spawned : Option EntityId}
    (spawn : w.spawnParticle build = .ok (spawned, w')) :
    w.Fates (.spawnParticle build) (some (.spawned spawned)) w' := by
  obtain ⟨p, -, built, -, ⟨-, roster⟩ | ⟨p', -, new, becomes, roster⟩⟩ := of_spawnParticle spawn
  · constructor <;> intro id
    · rw [World.unit?, World.unit?, roster]
      exact .kept trivial (rel_refl (fun _ => .refl) _)
    · rw [World.particle?, World.particle?, roster]
      exact .kept (rel_refl .refl _)
  · constructor <;> intro id
    · rw [World.unit?, World.unit?, roster]
      exact .kept trivial (rel_refl (fun _ => .refl) _)
    · rw [World.particle?, World.particle?, roster, Roster.particle?_setParticle, new]
      split
      case isTrue eq => exact .born eq (eq ▸ built) becomes rfl
      case isFalse => exact .kept (rel_refl .refl _)

theorem InStep.fates_erase {erased : Bool} (h : w.InStep)
    (erasure : w.erase id = .ok (erased, w')) : w.Fates (.erase id) reply w' := by
  obtain ⟨-, roster, -⟩ := h.of_erase erasure
  constructor <;> intro id'
  · rw [World.unit?, World.unit?, roster, Roster.unit?_removeUnit]
    split
    case isTrue eq => exact eq ▸ .erased rfl
    case isFalse other => exact .kept other (rel_refl (fun _ => .refl) _)
  · rw [World.particle?, World.particle?, roster]
    exact .kept (rel_refl .refl _)

theorem InStep.fates_eraseParticle {erased : Bool} (h : w.InStep)
    (erasure : w.eraseParticle id = .ok (erased, w')) : w.Fates (.eraseParticle id) reply w' := by
  obtain ⟨-, roster, -⟩ := h.of_eraseParticle erasure
  constructor <;> intro id'
  · rw [World.unit?, World.unit?, roster]
    exact .kept trivial (rel_refl (fun _ => .refl) _)
  · rw [World.particle?, World.particle?, roster, Roster.particle?_removeParticle]
    split
    case isTrue eq => exact eq ▸ .erased rfl
    case isFalse => exact .kept (rel_refl .refl _)

theorem InStep.fates_damage (h : w.InStep) (id : EntityId) (amount : UInt32) :
    w.Fates (.damage id amount) reply (w.damage id amount).2 := by
  constructor <;> intro id'
  · rw [h.unit?_damage]
    by_cases eq : id' = id
    · obtain rfl := eq
      exact .damaged (by simp only [if_pos])
    · simp only [if_neg eq, Option.map_id']
      exact .kept eq (rel_refl (fun _ => .refl) _)
  · refine .kept ?_
    rcases of_damage w id amount with same | ⟨u, -, same⟩ <;> rw [same]
    · exact rel_refl .refl _
    · exact rel_refl .refl _

theorem InStep.fates_harvest (h : w.InStep) (id : EntityId) (request : UInt32) :
    w.Fates (.harvest id request) (some (.taken (w.harvest id request).1))
      (w.harvest id request).2 := by
  have taken : (w.harvest id request).1
      = ((w.unit? id).bind (GameUnit.harvest? request)).map Prod.fst := by
    unfold World.harvest
    cases (w.unit? id).bind (GameUnit.harvest? request) <;> rfl
  constructor <;> intro id'
  · rw [h.unit?_harvest]
    by_cases eq : id' = id
    · obtain rfl := eq
      exact .harvested (by rw [taken]) (by simp only [if_pos])
    · simp only [if_neg eq, Option.map_id']
      exact .kept eq (rel_refl (fun _ => .refl) _)
  · refine .kept ?_
    rcases of_harvest w id request with same | ⟨u, u', t, -, -, same⟩ <;> rw [same]
    · exact rel_refl .refl _
    · exact rel_refl .refl _

/-- What an operation does to the entities of a world. -/
theorem InStep.fates (h : w.InStep) (performed : op.perform w = .ok (reply, w')) :
    w.Fates op reply w' := by
  cases op with
  | spawnUnit build =>
    obtain ⟨⟨spawned, w₁⟩, spawn, rfl, rfl⟩ := Checked.of_map_eq_ok performed
    exact fates_spawnUnit spawn
  | spawnParticle build =>
    obtain ⟨⟨spawned, w₁⟩, spawn, rfl, rfl⟩ := Checked.of_map_eq_ok performed
    exact fates_spawnParticle spawn
  | erase id =>
    obtain ⟨⟨erased, w₁⟩, erasure, -, rfl⟩ := Checked.of_map_eq_ok performed
    exact h.fates_erase erasure
  | eraseParticle id =>
    obtain ⟨⟨erased, w₁⟩, erasure, -, rfl⟩ := Checked.of_map_eq_ok performed
    exact h.fates_eraseParticle erasure
  | damage id amount =>
    obtain ⟨-, rfl⟩ := Prod.mk.inj (Except.ok.inj performed)
    exact h.fates_damage id amount
  | harvest id request =>
    obtain ⟨rfl, rfl⟩ := Prod.mk.inj (Except.ok.inj performed)
    exact h.fates_harvest id request
  -- the other operations spare every unit
  | moveUnit id target shift =>
    obtain ⟨⟨ordered, w₁⟩, order, -, rfl⟩ := Checked.of_map_eq_ok performed
    exact .of_evolves (h.evolves_moveUnit order).roster fun _ => trivial
  | relocate id target =>
    obtain ⟨⟨filed, w₁⟩, relocation, -, rfl⟩ := Checked.of_map_eq_ok performed
    exact .of_evolves (h.evolves_relocate relocation).roster fun _ => trivial
  | relocateParticle id target =>
    obtain ⟨⟨filed, w₁⟩, relocation, -, rfl⟩ := Checked.of_map_eq_ok performed
    exact .of_evolves (h.evolves_relocateParticle relocation).roster fun _ => trivial
  | query kind region =>
    obtain ⟨ids, -, -, rfl⟩ := Checked.of_map_eq_ok performed
    exact .of_evolves (.refl w.roster) fun _ => trivial
  | rebuildIndex =>
    obtain ⟨w₁, rebuilt, -, rfl⟩ := Checked.of_map_eq_ok performed
    exact .of_evolves (InStep.evolves_rebuildIndex rebuilt).roster fun _ => trivial
  | reshapeViewport x y width height =>
    obtain ⟨-, rfl⟩ := Prod.mk.inj (Except.ok.inj performed)
    exact .of_evolves (.refl w.roster) fun _ => trivial
  | select id =>
    obtain ⟨-, rfl⟩ := Prod.mk.inj (Except.ok.inj performed)
    exact .of_evolves (.refl w.roster) fun _ => trivial
  | selectAt screen =>
    obtain ⟨w₁, selection, -, rfl⟩ := Checked.of_map_eq_ok performed
    exact .of_evolves (h.of_selectAt selection).1 fun _ => trivial
  | tick =>
    obtain ⟨t, ticked, -, rfl⟩ := Checked.of_map_eq_ok performed
    exact .of_evolves (h.evolves_tick ticked).roster fun _ => trivial
  | cull =>
    obtain ⟨⟨list, w₁⟩, culled, -, rfl⟩ := Checked.of_map_eq_ok performed
    exact .of_evolves (h.evolves_cull culled).roster fun _ => trivial
  | draw list =>
    obtain ⟨-, rfl⟩ := Prod.mk.inj (Except.ok.inj performed)
    exact .of_evolves (.refl w.roster) fun _ => trivial
  | frame =>
    obtain ⟨framed, shown, -, rfl⟩ := Checked.of_map_eq_ok performed
    exact .of_evolves (h.evolves_frame shown).roster fun _ => trivial

end World

end Skirmish
