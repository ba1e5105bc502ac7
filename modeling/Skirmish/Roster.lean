import Skirmish.Entity.GameUnit

/-!
# The roster

The roster owns every unit and every particle, keyed by id, and hands out the ids.  Ids only grow:
an id that has been handed out is never handed out again.

## Main definitions

* `Roster` — the two tables and the next id.
* `Roster.issue` — hand out an id.
* `Roster.enlistUnit`, `Roster.enlistParticle` — build an entity under a fresh id and own it.
-/

namespace Skirmish

/-- The owner of all entities. -/
structure Roster where
  units : EntityId.Table GameUnit
  particles : EntityId.Table Particle
  /-- The number of the next id. -/
  next : UInt32

namespace Roster

/-- The roster that owns nothing and has handed out no id. -/
def empty : Roster := ⟨∅, ∅, 1⟩

/-- Hand out an id; the numbers may not run out. -/
def issue (r : Roster) : Except Fault (EntityId × Roster) :=
  if r.next.toNat + 1 < UInt32.size then .ok (⟨r.next⟩, { r with next := r.next + 1 })
  else .error .addition

def unit? (r : Roster) (id : EntityId) : Option GameUnit := r.units[id]?

def particle? (r : Roster) (id : EntityId) : Option Particle := r.particles[id]?

/-- Own a unit, in place of the unit of the same id. -/
def setUnit (u : GameUnit) (r : Roster) : Roster :=
  { r with units := r.units.insert u.id u }

/-- Own a particle, in place of the particle of the same id. -/
def setParticle (p : Particle) (r : Roster) : Roster :=
  { r with particles := r.particles.insert p.id p }

/-- Own a unit no more. -/
def removeUnit (id : EntityId) (r : Roster) : Roster :=
  { r with units := r.units.erase id }

/-- Own a particle no more. -/
def removeParticle (id : EntityId) (r : Roster) : Roster :=
  { r with particles := r.particles.erase id }

/-- Build a unit under a fresh id, without owning it yet. -/
def draftUnit (build : EntityId → Except Fault GameUnit) (r : Roster) :
    Except Fault (GameUnit × Roster) := do
  let (id, r) ← r.issue
  let u ← build id
  if u.id = id then .ok (u, r) else .error (.foreignId .unit u.id id)

/-- Build a particle under a fresh id, without owning it yet. -/
def draftParticle (build : EntityId → Except Fault Particle) (r : Roster) :
    Except Fault (Particle × Roster) := do
  let (id, r) ← r.issue
  let p ← build id
  if p.id = id then .ok (p, r) else .error (.foreignId .particle p.id id)

/-- Build a unit under a fresh id and own it. -/
def enlistUnit (build : EntityId → Except Fault GameUnit) (r : Roster) :
    Except Fault (EntityId × Roster) := do
  let (u, r) ← r.draftUnit build
  .ok (u.id, r.setUnit u)

/-- Build a particle under a fresh id and own it. -/
def enlistParticle (build : EntityId → Except Fault Particle) (r : Roster) :
    Except Fault (EntityId × Roster) := do
  let (p, r) ← r.draftParticle build
  .ok (p.id, r.setParticle p)

/-- Own nothing; the ids handed out stay handed out. -/
def clear (r : Roster) : Roster := { r with units := ∅, particles := ∅ }

end Roster

end Skirmish
