import Skirmish.World.Orders
import Skirmish.World.Selection

/-!
# Orders of a session

What the players send to a match between two updates.  Orders of one kind keep the order in which
they were sent; the kinds are carried out one after the other.

## Main definitions

* `Order` — one order.
* `Mail` — the orders that wait for the next update, kind by kind.
* `Mail.drain` — all of them carried out on a world.
-/

namespace Skirmish

/-- What a spawn order creates. -/
inductive SpawnKind where
  | villager (color : UInt32)
  | resource (kind : Resource)
  | building (kind : Building) (color : UInt32)
  | debris (color : UInt32)
  deriving DecidableEq, Repr

/-- An order to create something at a point. -/
structure SpawnOrder where
  pos : Point
  kind : SpawnKind
  deriving DecidableEq, Repr

/-- An order to walk. -/
structure MoveOrder where
  unit : EntityId
  target : Point
  /-- The displacement of the sprite. -/
  shift : Point
  deriving DecidableEq, Repr

/-- Damage done to a unit. -/
structure DamageOrder where
  unit : EntityId
  amount : UInt32
  deriving DecidableEq, Repr

/-- A look at another part of the map. -/
structure ViewOrder where
  x : Int32
  y : Int32
  width : Int32
  height : Int32
  deriving DecidableEq, Repr

/-- One order. -/
inductive Order where
  | spawn (order : SpawnOrder)
  | move (order : MoveOrder)
  | damage (order : DamageOrder)
  | despawn (id : EntityId)
  | view (order : ViewOrder)
  /-- A click on a point of the screen. -/
  | click (screen : Point)
  deriving DecidableEq, Repr

/-- The orders that wait for the next update. -/
structure Mail where
  despawns : List EntityId
  spawns : List SpawnOrder
  moves : List MoveOrder
  damages : List DamageOrder
  views : List ViewOrder
  clicks : List Point
  deriving DecidableEq, Repr

namespace Mail

/-- No orders. -/
def empty : Mail := ⟨[], [], [], [], [], []⟩

/-- One more order, behind the others of its kind. -/
def send (m : Mail) : Order → Mail
  | .spawn o => { m with spawns := m.spawns ++ [o] }
  | .move o => { m with moves := m.moves ++ [o] }
  | .damage o => { m with damages := m.damages ++ [o] }
  | .despawn id => { m with despawns := m.despawns ++ [id] }
  | .view o => { m with views := m.views ++ [o] }
  | .click p => { m with clicks := m.clicks ++ [p] }

/-! ### Carrying orders out -/

/-- Create what a spawn order asks for; what does not fit the map is dropped. -/
def spawn (w : World) (o : SpawnOrder) : Except Fault World :=
  Prod.snd <$> match o.kind with
    | .villager color => w.spawnVillager o.pos color
    | .resource kind => w.spawnResource o.pos kind
    | .building kind color => w.spawnBuilding o.pos kind color
    | .debris color => w.spawnDebris o.pos color

/-- Pass an order to walk on to its unit; a unit that cannot walk ignores it. -/
def move (w : World) (o : MoveOrder) : Except Fault World :=
  Prod.snd <$> w.moveUnit o.unit o.target o.shift

/-- Do damage, and add a unit that dies of it to the dead. -/
def damage (state : List EntityId × World) (o : DamageOrder) : List EntityId × World :=
  let (killed, w) := state.2.damage o.unit o.amount
  (if killed = some true then state.1 ++ [o.unit] else state.1, w)

/-- Look where the last view order says. -/
def look (orders : List ViewOrder) (w : World) : World :=
  match orders.getLast? with
  | some o => w.reshapeViewport o.x o.y o.width o.height
  | none => w

/-- Carry out all orders: what is removed makes room for what is created, and what is created can
be ordered about at once.  The first component lists the units that died, in the order of their
deaths. -/
def drain (m : Mail) (w : World) : Except Fault (List EntityId × World) := do
  let w ← m.despawns.foldlM World.despawn w
  let w ← m.spawns.foldlM spawn w
  let w ← m.moves.foldlM move w
  let (died, w) := m.damages.foldl damage ([], w)
  let w := look m.views w
  let w ← m.clicks.foldlM (fun w p => w.selectAt p) w
  .ok (died, w)

end Mail

end Skirmish
