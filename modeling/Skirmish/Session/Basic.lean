import Skirmish.Session.Runner
import Skirmish.World.Frame

/-!
# Sessions

A session runs a match update by update.  Each update carries out the waiting orders, lets the
world take a tick and records a picture of it, stage by stage.  While there is no world an update
does nothing, and the orders that waited are lost.

## Main definitions

* `Session` — the world, the waiting orders and what the last updates left behind.
* `Session.post` — send an order.
* `Session.nextFrame` — count a frame.
* `Session.drain`, `Session.tick`, `Session.record` — the three stages.
* `Session.update`, `Session.updates` — one update, and several in a row.
-/

namespace Skirmish

/-- The picture of the last frame that was recorded. -/
structure Snapshot where
  /-- The frame that the picture shows. -/
  frame : UInt64
  picture : Picture
  deriving DecidableEq, Repr

/-- A match that is run update by update. -/
structure Session where
  /-- The world, once there is one. -/
  world : Option World
  mail : Mail
  snapshot : Snapshot
  stats : FrameStats
  /-- How many frames have been simulated. -/
  counter : UInt64
  /-- What keeps the match going without players, if anything does. -/
  runner : Option Runner

/-- What an update leads to. -/
structure Outcome where
  session : Session
  /-- The units that died, in the order of their deaths. -/
  died : List EntityId
  /-- Whether the runner has ended the match. -/
  exits : Bool

namespace Session

/-- A session before its first update. -/
def start (world : Option World) (runner : Option Runner) : Session :=
  { world, mail := .empty, snapshot := ⟨0, .blank⟩, stats := .none, counter := 0, runner }

/-- Send an order; it waits for the next update. -/
def post (s : Session) (o : Order) : Session := { s with mail := s.mail.send o }

/-! ### Stages -/

/-- The runner's orders, sent behind those of the players. -/
def wander (w : World) (s : Session) : Session :=
  match s.runner with
  | none => s
  | some r =>
    let (orders, r) := r.wander w s.counter
    { orders.foldl (fun s o => s.post (.move o)) s with runner := some r }

/-- The first stage: the waiting orders are carried out. -/
def drain (w : World) (s : Session) : Except Fault (List EntityId × World × Session) := do
  let (died, w) ← s.mail.drain w
  .ok (died, w, { s with mail := .empty })

/-- Count a frame; the numbers may not run out. -/
def nextFrame (counter : UInt64) : Except Fault UInt64 :=
  if counter.toNat + 1 < UInt64.size then .ok (counter + 1) else .error .addition

/-- The second stage: the world takes a tick, and the counts of the frame start anew. -/
def tick (w : World) (s : Session) : Except Fault (World × Session) := do
  let t ← w.tick
  let counter ← nextFrame s.counter
  .ok (t.world, { s with stats := .ofTick t.ticked t.moved, counter })

/-- The third stage: what is in view is recorded.  The sprites of the last picture are taken along
and wiped, so that their place is used again. -/
def record (w : World) (s : Session) : Except Fault (World × Session) := do
  let (list, w) ← w.cull
  let canvas : Picture := ⟨s.snapshot.picture.sprites, none⟩
  .ok (w, { s with
    snapshot := ⟨s.counter, w.drawOn canvas.clear list⟩
    stats := s.stats.withDrawn list })

/-! ### Updates -/

/-- Whether the runner ends the match now. -/
def isOver (s : Session) : Bool :=
  match s.runner with
  | none => false
  | some r => r.isOver s.counter

/-- One update: the stages in their order, if there is a world. -/
def update (s : Session) : Except Fault Outcome :=
  match s.world with
  | none =>
    let s := { s with mail := .empty }
    .ok ⟨s, [], s.isOver⟩
  | some w => do
    -- wandering orders are sent first, so that they are carried out in this very update
    let (died, w, s) ← (s.wander w).drain w
    let (w, s) ← s.tick w
    let (w, s) ← s.record w
    let s := { s with world := some w }
    .ok ⟨s, died, s.isOver⟩

/-- Several updates in a row, with all deaths, and whether the match was ended at some time. -/
def updates : Nat → Session → Except Fault Outcome
  | 0, s => .ok ⟨s, [], false⟩
  | n + 1, s => do
    let first ← s.update
    let others ← updates n first.session
    .ok ⟨others.session, first.died ++ others.died, first.exits || others.exits⟩

end Session

end Skirmish
