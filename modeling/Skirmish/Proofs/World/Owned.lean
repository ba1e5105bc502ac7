import Skirmish.Proofs.Entity.Entry
import Skirmish.Proofs.Entity.Id
import Skirmish.Roster

/-!
# What a roster owns

The entries of the entities that a roster owns, in one map for both families, so that the roster
can be compared with the index.

## Main definitions

* `Roster.owned?` — the entry of an owned entity.
* `Roster.SameEntries` — two rosters own the same entities, on the same ground.

## Main results

* `Roster.owned?_setUnit`, `Roster.owned?_removeUnit`, and the same for particles — the roster
  after a change.
* `Roster.sameEntries_draftUnit`, `Roster.sameEntries_draftParticle` — a draft is not owned.
-/

namespace Skirmish

namespace Roster

/-- The entry of an owned entity. -/
def owned? (r : Roster) (kind : EntityKind) (id : EntityId) : Option Entry :=
  match kind with
  | .unit => (r.unit? id).map .ofUnit
  | .particle => (r.particle? id).map .ofParticle

/-- Two rosters own the same entities, on the same ground. -/
def SameEntries (r r' : Roster) : Prop := ∀ kind id, r'.owned? kind id = r.owned? kind id

theorem SameEntries.refl (r : Roster) : r.SameEntries r := fun _ _ => rfl

variable {r r' : Roster} {k : EntityKind} {id id' : EntityId} {u : GameUnit} {p : Particle}

/-! ### Changes -/

theorem unit?_setUnit (r : Roster) (u : GameUnit) :
    (r.setUnit u).unit? id = if id = u.id then some u else r.unit? id :=
  EntityId.getElem?_insert r.units u

/-- Rosters are determined by what they own under each id, and by the next id. -/
theorem eq_of_unit?_eq (units : ∀ id, r.unit? id = r'.unit? id)
    (particles : r.particles = r'.particles) (next : r.next = r'.next) : r = r' := by
  cases r
  cases r'
  rw [Roster.mk.injEq]
  exact ⟨Std.ExtTreeMap.ext_getElem? units, particles, next⟩

/-- A unit that is owned already is owned as before. -/
theorem setUnit_self (found : r.unit? u.id = some u) : r.setUnit u = r := by
  refine eq_of_unit?_eq (fun id => ?_) rfl rfl
  rw [unit?_setUnit]
  split
  case isTrue eq => rw [eq, found]
  case isFalse => rfl

theorem owned?_of_unit? (h : r.unit? id = some u) : r.owned? .unit id = some (.ofUnit u) := by
  rw [owned?, h]
  rfl

theorem owned?_of_particle? (h : r.particle? id = some p) :
    r.owned? .particle id = some (.ofParticle p) := by
  rw [owned?, h]
  rfl

theorem owned?_empty : empty.owned? k id = none := by
  cases k <;> simp [owned?, unit?, particle?, empty]

theorem owned?_setUnit (r : Roster) (u : GameUnit) : (r.setUnit u).owned? k id
    = if k = .unit ∧ id = u.id then some (.ofUnit u) else r.owned? k id := by
  cases k with
  | unit =>
    simp only [owned?, unit?, setUnit, EntityId.getElem?_insert, true_and]
    split <;> rfl
  | particle => rfl

theorem owned?_setParticle (r : Roster) (p : Particle) : (r.setParticle p).owned? k id
    = if k = .particle ∧ id = p.id then some (.ofParticle p) else r.owned? k id := by
  cases k with
  | unit => rfl
  | particle =>
    simp only [owned?, particle?, setParticle, EntityId.getElem?_insert, true_and]
    split <;> rfl

theorem owned?_removeUnit (r : Roster) : (r.removeUnit id).owned? k id'
    = if k = .unit ∧ id' = id then none else r.owned? k id' := by
  cases k with
  | unit =>
    simp only [owned?, unit?, removeUnit, EntityId.getElem?_erase, true_and]
    split <;> rfl
  | particle => rfl

theorem owned?_removeParticle (r : Roster) : (r.removeParticle id).owned? k id'
    = if k = .particle ∧ id' = id then none else r.owned? k id' := by
  cases k with
  | unit => rfl
  | particle =>
    simp only [owned?, particle?, removeParticle, EntityId.getElem?_erase, true_and]
    split <;> rfl

/-! ### Drafts -/

theorem sameEntries_issue (h : r.issue = .ok (id', r')) : r.SameEntries r' := by
  unfold issue at h
  split at h
  case isTrue =>
    obtain ⟨-, rfl⟩ := Prod.mk.inj (Except.ok.inj h)
    intro kind id
    cases kind <;> rfl
  case isFalse => cases h

theorem sameEntries_draftUnit {build : EntityId → Except Fault GameUnit}
    (h : r.draftUnit build = .ok (u, r')) : r.SameEntries r' := by
  simp only [draftUnit, Checked.bind_eq_ok_iff] at h
  obtain ⟨⟨new, r₁⟩, issued, u₁, -, h⟩ := h
  split at h
  case isTrue =>
    obtain ⟨-, rfl⟩ := Prod.mk.inj (Except.ok.inj h)
    exact sameEntries_issue issued
  case isFalse => cases h

theorem sameEntries_draftParticle {build : EntityId → Except Fault Particle}
    (h : r.draftParticle build = .ok (p, r')) : r.SameEntries r' := by
  simp only [draftParticle, Checked.bind_eq_ok_iff] at h
  obtain ⟨⟨new, r₁⟩, issued, p₁, -, h⟩ := h
  split at h
  case isTrue =>
    obtain ⟨-, rfl⟩ := Prod.mk.inj (Except.ok.inj h)
    exact sameEntries_issue issued
  case isFalse => cases h

end Roster

end Skirmish
