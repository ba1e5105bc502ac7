import Skirmish.Map.Basic
import Skirmish.Quadtree.Basic
import Skirmish.Roster

/-!
# The world

Everything that is simulated: the map, the roster of entities, the spatial index over them and the
selected unit.  The operations keep the roster and the index in step: an entity is owned exactly
when it is filed, and it is filed under the ground that it takes.

## Main definitions

* `World` — the state of a match.
* `World.onMap`, `World.ofSize` — empty worlds.
* `World.spawnUnit`, `World.spawnParticle` — a new entity, brought inside the map.
* `World.erase`, `World.eraseParticle` — an entity removed.
-/

namespace Skirmish

/-- The state of a match. -/
structure World where
  map : Map
  roster : Roster
  index : Quadtree
  /-- The selected unit. -/
  selected : Option EntityId

namespace World

/-- The empty world over a map, whose index covers the playable area. -/
def onMap (map : Map) (capacity : Nat) : Except Fault World := do
  let area ← map.bounds
  .ok { map, roster := .empty, index := .empty area capacity, selected := none }

/-- The empty world of a size class, seen through a closed viewport. -/
def ofSize (size : SizeClass) (capacity : Nat) : Except Fault World :=
  onMap (Map.empty.resize size) capacity

def unit? (w : World) (id : EntityId) : Option GameUnit := w.roster.unit? id

def particle? (w : World) (id : EntityId) : Option Particle := w.roster.particle? id

/-! ### Spawning -/

/-- Build a unit under a fresh id, bring it inside the map and file it.  A unit that does not fit
the map is discarded; its id is used up all the same. -/
def spawnUnit (build : EntityId → Except Fault GameUnit) (w : World) :
    Except Fault (Option EntityId × World) := do
  let (u, roster) ← w.roster.draftUnit build
  let fitted ← w.map.clamp u.bounds
  let u := (u.settle fitted.center).project w.map.view
  let (filed, index) ← w.index.put .unit (.ofUnit u)
  if filed then .ok (some u.id, { w with roster := roster.setUnit u, index })
  else .ok (none, { w with roster })

/-- Build a particle under a fresh id, bring it inside the map and file it, or discard it. -/
def spawnParticle (build : EntityId → Except Fault Particle) (w : World) :
    Except Fault (Option EntityId × World) := do
  let (p, roster) ← w.roster.draftParticle build
  let fitted ← w.map.clamp p.bounds
  let p := { p with pos := fitted.center }.project w.map.view
  let (filed, index) ← w.index.put .particle (.ofParticle p)
  if filed then .ok (some p.id, { w with roster := roster.setParticle p, index })
  else .ok (none, { w with roster })

/-- Spawn a villager. -/
def spawnVillager (pos : Point) (color : UInt32) : World → Except Fault (Option EntityId × World) :=
  spawnUnit fun id => .ok (.villager id pos color)

/-- Spawn a resource node. -/
def spawnResource (pos : Point) (kind : Resource) :
    World → Except Fault (Option EntityId × World) :=
  spawnUnit fun id => .ok (.resource id pos kind)

/-- Spawn a building. -/
def spawnBuilding (pos : Point) (kind : Building) (color : UInt32) :
    World → Except Fault (Option EntityId × World) :=
  spawnUnit fun id => .ok (.building id pos kind color)

/-- Spawn a piece of debris. -/
def spawnDebris (pos : Point) (color : UInt32) : World → Except Fault (Option EntityId × World) :=
  spawnParticle fun id => .ok (.debris id pos color)

/-! ### Erasing -/

/-- Forget the selection if it is the given unit. -/
def deselect (id : EntityId) (w : World) : World :=
  if w.selected = some id then { w with selected := none } else w

/-- Remove a unit; the first component says whether there was one. -/
def erase (id : EntityId) (w : World) : Except Fault (Bool × World) := do
  let w := w.deselect id
  let (filed, index) ← w.index.erase .unit id
  .ok (filed || (w.unit? id).isSome, { w with roster := w.roster.removeUnit id, index })

/-- Remove a particle; the first component says whether there was one. -/
def eraseParticle (id : EntityId) (w : World) : Except Fault (Bool × World) := do
  let (filed, index) ← w.index.erase .particle id
  .ok (filed || (w.particle? id).isSome, { w with roster := w.roster.removeParticle id, index })

/-- Remove the unit with an id, or if there is none the particle with that id. -/
def despawn (w : World) (id : EntityId) : Except Fault World :=
  Prod.snd <$> if (w.unit? id).isSome then w.erase id else w.eraseParticle id

end World

end Skirmish
