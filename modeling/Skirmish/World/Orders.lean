import Skirmish.World.Basic

/-!
# Orders and effects

What the players and the economy do to the entities of a world.

## Main definitions

* `World.moveUnit` — an order to walk; its target is brought inside the map.
* `World.relocate`, `World.relocateParticle` — teleporting.
* `World.damage`, `World.harvest` — hit points and stock taken away.
-/

namespace Skirmish

namespace World

/-- Order a unit to walk toward a point and displace its sprite.  The target is brought inside the
map, so that the unit can reach it.  The first component says whether there is such a unit and it
can walk. -/
def moveUnit (id : EntityId) (target shift : Point) (w : World) : Except Fault (Bool × World) :=
  match w.unit? id with
  | none => .ok (false, w)
  | some u => do
    let fitted ← w.map.clamp (u.bounds.moveTo target)
    match u.order? fitted.center shift with
    | some u => .ok (true, { w with roster := w.roster.setUnit u })
    | none => .ok (false, w)

/-- Teleport a unit to a point, brought inside the map.  The first component says whether the unit
is filed afterwards. -/
def relocate (id : EntityId) (target : Point) (w : World) : Except Fault (Bool × World) :=
  match w.unit? id with
  | none => .ok (false, w)
  | some u => do
    let fitted ← w.map.clamp (u.bounds.moveTo target)
    let u := (u.place fitted.center).project w.map.view
    let (filed, index) ← w.index.update .unit u.id u.bounds
    .ok (filed, { w with roster := w.roster.setUnit u, index })

/-- Teleport a particle to a point, brought inside the map.  The first component says whether the
particle is filed afterwards. -/
def relocateParticle (id : EntityId) (target : Point) (w : World) : Except Fault (Bool × World) :=
  match w.particle? id with
  | none => .ok (false, w)
  | some p => do
    let fitted ← w.map.clamp (p.bounds.moveTo target)
    let p := { p with pos := fitted.center }.project w.map.view
    let (filed, index) ← w.index.update .particle p.id p.bounds
    .ok (filed, { w with roster := w.roster.setParticle p, index })

/-- Damage a unit; the first component says whether that killed it, and is `none` if there is no
such unit.  The dead stay in the world until they are erased. -/
def damage (id : EntityId) (amount : UInt32) (w : World) : Option Bool × World :=
  match w.unit? id with
  | none => (none, w)
  | some u => (some (u.diesOf amount), { w with roster := w.roster.setUnit (u.damage amount) })

/-- Take from a resource node; the first component is what was taken, or `none` if there is no such
node. -/
def harvest (id : EntityId) (request : UInt32) (w : World) : Option UInt32 × World :=
  match (w.unit? id).bind (GameUnit.harvest? request) with
  | none => (none, w)
  | some (taken, u) => (some taken, { w with roster := w.roster.setUnit u })

end World

end Skirmish
