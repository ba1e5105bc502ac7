import Mathlib.Data.List.Induction
import Skirmish.Proofs.Checked
import Skirmish.Session.Basic

/-!
# Updates and the plain driver

An update of a session carries out whatever was sent since the last one, kind by kind, and shows the
world after it through resources that the updates share.  The plain driver does without any of it:
it carries the orders out one at a time, each by the operation of the world that it stands for, and
then runs one frame.  Both come to the same, for any mixture of orders, also for orders about the
same entities, and also when they fail.

## Main definitions

* `Order.stage`, `Order.inStages` — the kinds of order, and orders sorted by their kind.
* `Order.apply`, `Order.carryOut` — orders carried out by operations of the world.
* `drive` — the plain driver, and `driveOut`, which has no number left for its frame.

## Main results

* `Mail.drain_eq_foldlM` — the mail is carried out like the orders in it.
* `World.drawOn_clear` — nothing of an old picture shows in the place of it.
* `Session.Hosts.update_eq`, `Session.Hosts.close_eq` — an update in two parts: the orders, and the
  frame after them.
* `Session.update_posted` — an update does what the plain driver does.
-/

namespace Skirmish

/-! ### The plain driver -/

/-- The kinds of order, in the order in which they are carried out. -/
inductive Stage where
  | despawn
  | spawn
  | move
  | damage
  | view
  | click
  deriving DecidableEq, Repr

/-- Every kind of order. -/
def Stage.all : List Stage := [.despawn, .spawn, .move, .damage, .view, .click]

namespace Order

def stage : Order → Stage
  | spawn _ => .spawn
  | move _ => .move
  | damage _ => .damage
  | despawn _ => .despawn
  | view _ => .view
  | click _ => .click

/-- All orders, sorted by their kinds; orders of one kind stay as they were sent. -/
def inStages (orders : List Order) : List Order :=
  Stage.all.flatMap fun stage => orders.filter fun o => decide (o.stage = stage)

/-- Carry out one order.  The first component names the unit that died of it, if one did. -/
def apply : Order → World → Except Fault (List EntityId × World)
  | despawn id, w =>
    if (w.unit? id).isSome then (w.erase id).map fun r => ([], r.2)
    else (w.eraseParticle id).map fun r => ([], r.2)
  | spawn ⟨pos, .villager color⟩, w => (w.spawnVillager pos color).map fun r => ([], r.2)
  | spawn ⟨pos, .resource kind⟩, w => (w.spawnResource pos kind).map fun r => ([], r.2)
  | spawn ⟨pos, .building kind color⟩, w =>
    (w.spawnBuilding pos kind color).map fun r => ([], r.2)
  | spawn ⟨pos, .debris color⟩, w => (w.spawnDebris pos color).map fun r => ([], r.2)
  | move ⟨id, target, shift⟩, w => (w.moveUnit id target shift).map fun r => ([], r.2)
  | damage ⟨id, amount⟩, w =>
    .ok (if (w.damage id amount).1 = some true then [id] else [], (w.damage id amount).2)
  | view ⟨x, y, width, height⟩, w => .ok ([], w.reshapeViewport x y width height)
  | click screen, w => (w.selectAt screen).map fun w => ([], w)

/-- Carry out one order after others, whose deaths are listed. -/
def carryOut (state : List EntityId × World) (o : Order) : Except Fault (List EntityId × World) :=
  (o.apply state.2).map fun r => (state.1 ++ r.1, r.2)

end Order

/-- What the plain driver comes to. -/
structure Driven where
  died : List EntityId
  framed : World.Framed

/-- The plain driver: all orders, sorted by their kinds, and then one frame. -/
def drive (orders : List Order) (w : World) : Except Fault Driven := do
  let (died, w) ← (Order.inStages orders).foldlM Order.carryOut ([], w)
  let framed ← w.frame
  .ok ⟨died, framed⟩

/-- The plain driver when no number is left for its frame: it comes as far as the tick. -/
def driveOut (orders : List Order) (w : World) : Except Fault Outcome := do
  let (_, w) ← (Order.inStages orders).foldlM Order.carryOut ([], w)
  let _ ← w.tick
  .error .addition

/-! ### Orders in a row -/

namespace Order

/-- Orders of a kind of which no unit dies. -/
theorem foldlM_carryOut_map {α : Type} {order : α → Order} {f : World → α → Except Fault World}
    (apply : ∀ a w, (order a).apply w = (f w a).map fun w => ([], w)) (l : List α)
    (died : List EntityId) (w : World) :
    (l.map order).foldlM carryOut (died, w) = (l.foldlM f w).map fun w => (died, w) := by
  induction l generalizing w with
  | nil => rfl
  | cons a l ih =>
    rw [List.map_cons, List.foldlM_cons, List.foldlM_cons, carryOut, apply]
    cases f w a with
    | error fault => rfl
    | ok w₁ =>
      rw [Checked.map_ok, Checked.map_ok, Checked.ok_bind, Checked.ok_bind, List.append_nil]
      exact ih w₁

theorem foldlM_carryOut_damage (l : List DamageOrder) (state : List EntityId × World) :
    (l.map .damage).foldlM carryOut state = .ok (l.foldl Mail.damage state) := by
  induction l generalizing state with
  | nil => rfl
  | cons o l ih =>
    have first : carryOut state (.damage o) = .ok (Mail.damage state o) := by
      rw [carryOut, apply, Checked.map_ok, Mail.damage]
      dsimp only
      split
      case isTrue killed => rfl
      case isFalse => rw [List.append_nil]
    rw [List.map_cons, List.foldlM_cons, first, Checked.ok_bind, List.foldl_cons]
    exact ih _

/-- Of several views only the last one shows. -/
theorem foldlM_carryOut_view (l : List ViewOrder) (state : List EntityId × World) :
    (l.map .view).foldlM carryOut state = .ok (state.1, Mail.look l state.2) := by
  induction l using List.reverseRecOn with
  | nil => rfl
  | append_singleton l o ih =>
    rw [List.map_append, List.foldlM_append, ih, Checked.ok_bind, List.map_singleton,
      List.foldlM_cons, carryOut, apply, Checked.map_ok, Checked.ok_bind, List.append_nil]
    -- the view of the last order does not depend on the view before it
    have reshaped : (Mail.look l state.2).reshapeViewport o.x o.y o.width o.height
        = state.2.reshapeViewport o.x o.y o.width o.height := by
      unfold Mail.look
      split <;> rfl
    dsimp only
    rw [reshaped, Mail.look, List.getLast?_append]
    rfl

end Order

/-! ### The mail -/

namespace Mail

/-- The orders of a kind that wait. -/
def orders (m : Mail) : Stage → List Order
  | .despawn => m.despawns.map .despawn
  | .spawn => m.spawns.map .spawn
  | .move => m.moves.map .move
  | .damage => m.damages.map .damage
  | .view => m.views.map .view
  | .click => m.clicks.map .click

theorem orders_send (m : Mail) (o : Order) (stage : Stage) :
    (m.send o).orders stage = m.orders stage ++ if o.stage = stage then [o] else [] := by
  cases o <;> cases stage <;> simp [send, orders, Order.stage]

/-- What is sent waits behind the others of its kind. -/
theorem orders_foldl_send (orders : List Order) (m : Mail) (stage : Stage) :
    (orders.foldl send m).orders stage
      = m.orders stage ++ orders.filter fun o => decide (o.stage = stage) := by
  induction orders generalizing m with
  | nil => rw [List.foldl_nil, List.filter_nil, List.append_nil]
  | cons o orders ih =>
    rw [List.foldl_cons, ih, orders_send, List.append_assoc, List.filter_cons]
    by_cases eq : o.stage = stage <;> simp [eq]

/-- The result of an operation is dropped, and no unit dies of it. -/
private theorem map_snd {α : Type} (x : Except Fault (α × World)) :
    x.map (fun r => (([] : List EntityId), r.2)) = (Prod.snd <$> x).map fun w => ([], w) := by
  cases x <;> rfl

theorem apply_despawn (id : EntityId) (w : World) :
    Order.apply (.despawn id) w = (w.despawn id).map fun w => ([], w) := by
  rw [Order.apply, World.despawn]
  split
  case isTrue => exact map_snd _
  case isFalse => exact map_snd _

theorem apply_spawn (o : SpawnOrder) (w : World) :
    Order.apply (.spawn o) w = (spawn w o).map fun w => ([], w) := by
  obtain ⟨pos, kind⟩ := o
  cases kind <;> exact map_snd _

theorem apply_move (o : MoveOrder) (w : World) :
    Order.apply (.move o) w = (move w o).map fun w => ([], w) := map_snd _

/-- The mail is carried out kind by kind, each order by the operation that it stands for. -/
theorem drain_eq_foldlM (m : Mail) (w : World) :
    m.drain w = (Stage.all.flatMap m.orders).foldlM Order.carryOut ([], w) := by
  simp only [Stage.all, List.flatMap_cons, List.flatMap_nil, List.append_nil, List.foldlM_append,
    orders]
  rw [drain, Order.foldlM_carryOut_map apply_despawn]
  cases m.despawns.foldlM World.despawn w with
  | error fault => rfl
  | ok w₁ =>
    rw [Checked.map_ok, Checked.ok_bind, Checked.ok_bind, Order.foldlM_carryOut_map apply_spawn]
    cases m.spawns.foldlM spawn w₁ with
    | error fault => rfl
    | ok w₂ =>
      rw [Checked.map_ok, Checked.ok_bind, Checked.ok_bind, Order.foldlM_carryOut_map apply_move]
      cases m.moves.foldlM move w₂ with
      | error fault => rfl
      | ok w₃ =>
        rw [Checked.map_ok, Checked.ok_bind, Checked.ok_bind, Order.foldlM_carryOut_damage,
          Checked.ok_bind, Order.foldlM_carryOut_view, Checked.ok_bind,
          Order.foldlM_carryOut_map (f := fun w p => w.selectAt p) fun screen w => rfl]
        dsimp only
        cases m.clicks.foldlM (fun w p => w.selectAt p)
          (look m.views (m.damages.foldl damage ([], w₃)).2) <;> rfl

end Mail

/-! ### Pictures -/

namespace World

/-- Nothing of an old picture shows in its place, once it has been wiped. -/
theorem drawOn_clear (p : Picture) (list : DrawList) (w : World) :
    w.drawOn p.clear list = w.draw list := by
  rw [drawOn, draw, Picture.addSprites, Picture.setMarker, Picture.clear, List.nil_append,
    Option.or_none]

end World

/-! ### Updates -/

namespace Session

/-- What is sent to a session waits in its mail. -/
theorem foldl_post (orders : List Order) (s : Session) :
    orders.foldl post s = { s with mail := orders.foldl Mail.send s.mail } := by
  induction orders generalizing s with
  | nil => rfl
  | cons o orders ih => rw [List.foldl_cons, ih, List.foldl_cons, post]

/-- A session that plays on a world, without a runner and with no orders waiting. -/
structure Hosts (s : Session) (w : World) : Prop where
  world : s.world = some w
  mail : s.mail = .empty
  runner : s.runner = none

/-- What an update does after the orders have been carried out. -/
def close (s : Session) (r : List EntityId × World) : Except Fault Outcome := do
  let (w, s) ← s.tick r.2
  let (w, s) ← s.record w
  let s := { s with world := some w }
  .ok ⟨s, r.1, s.isOver⟩

variable {s : Session} {w : World}

/-- An update carries out what was sent before it, and closes. -/
theorem Hosts.update_eq (h : s.Hosts w) (orders : List Order) :
    (orders.foldl post s).update
      = ((Order.inStages orders).foldlM Order.carryOut ([], w) >>= s.close) := by
  obtain ⟨world, mail, runner⟩ := h
  have sorted : Stage.all.flatMap (orders.foldl Mail.send .empty).orders
      = Order.inStages orders := by
    refine congrArg (fun f => Stage.all.flatMap f) (funext fun stage => ?_)
    rw [Mail.orders_foldl_send]
    cases stage <;> rfl
  obtain ⟨_, _, snapshot, stats, counter, _⟩ := s
  subst world mail runner
  rw [foldl_post, update]
  dsimp only
  rw [wander, drain, Mail.drain_eq_foldlM]
  dsimp only
  rw [sorted]
  cases (Order.inStages orders).foldlM Order.carryOut ([], w) with
  | error fault => rfl
  | ok r => rfl

/-- An update closes with a frame of the world.  Without a number for it there is a fault, at the
latest after the tick. -/
theorem Hosts.close_eq (h : s.Hosts w) (r : List EntityId × World) :
    s.close r
      = if s.counter.toNat + 1 < UInt64.size then
          r.2.frame.map fun framed =>
            { session :=
                { s with
                  world := some framed.world
                  snapshot := ⟨s.counter + 1, framed.picture⟩
                  stats := framed.stats
                  counter := s.counter + 1 }
              died := r.1
              exits := false }
        else r.2.tick >>= fun _ => .error .addition := by
  obtain ⟨-, -, runner⟩ := h
  obtain ⟨_, mail, snapshot, stats, counter, _⟩ := s
  subst runner
  rw [close, tick, World.frame]
  cases r.2.tick with
  | error fault => exact (ite_self _).symm
  | ok t =>
    rw [Checked.ok_bind, Checked.ok_bind, Checked.ok_bind, nextFrame]
    split
    case isFalse full => rfl
    case isTrue room =>
      rw [Checked.ok_bind, Checked.ok_bind]
      dsimp only
      rw [record]
      cases t.world.cull with
      | error fault => rfl
      | ok r' =>
        rw [Checked.ok_bind, Checked.ok_bind, Checked.ok_bind, Checked.map_ok]
        dsimp only
        rw [World.drawOn_clear]
        rfl

/-- An update does what the plain driver does: it carries the orders out kind by kind, the world
takes a tick, and the picture of the world after it is all that is shown, under the next frame
number.  Without a next number there is a fault. -/
theorem update_posted (orders : List Order) (w : World) (snapshot : Snapshot) (stats : FrameStats)
    (counter : UInt64) :
    (orders.foldl post ⟨some w, .empty, snapshot, stats, counter, none⟩).update
      = if counter.toNat + 1 < UInt64.size then
          (drive orders w).map fun d =>
            { session :=
                { world := some d.framed.world
                  mail := .empty
                  snapshot := ⟨counter + 1, d.framed.picture⟩
                  stats := d.framed.stats
                  counter := counter + 1
                  runner := none }
              died := d.died
              exits := false }
        else driveOut orders w := by
  have hosts : Hosts ⟨some w, .empty, snapshot, stats, counter, none⟩ w := ⟨rfl, rfl, rfl⟩
  rw [hosts.update_eq, drive, driveOut]
  cases (Order.inStages orders).foldlM Order.carryOut ([], w) with
  | error fault => exact (ite_self _).symm
  | ok r =>
    rw [Checked.ok_bind, Checked.ok_bind, Checked.ok_bind, hosts.close_eq]
    dsimp only
    cases r.2.frame with
    | error fault => rfl
    | ok framed => rfl

end Session

end Skirmish
