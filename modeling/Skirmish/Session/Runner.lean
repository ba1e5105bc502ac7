import Skirmish.Random.ChaCha
import Skirmish.Session.Orders
import Skirmish.Settings.Basic

/-!
# The runner

A match without players: at regular intervals idle units are sent somewhere into view, and after a
number of frames the match ends.
-/

namespace Skirmish

/-- What keeps a match without players going. -/
structure Runner where
  /-- After how many frames the match ends; zero means never. -/
  frames : UInt64
  source : Random.Source

namespace Runner

/-- The runner of a match with the given settings. -/
def ofSettings (s : Settings) : Runner := ⟨s.frames, Random.ChaCha.ofSeed s.seed⟩

/-- Units are sent wandering every so many frames. -/
def wanderInterval : UInt64 := 120

/-- Whether the match ends at a frame. -/
def isOver (frame : UInt64) (r : Runner) : Bool := 0 < r.frames && r.frames ≤ frame

/-- The mobile units that stand still, in the order of the ids. -/
def idle (w : World) : List EntityId :=
  w.index.mobileIds.filter fun id =>
    match (w.unit? id).bind GameUnit.movement? with
    | some m => !m.isMoving
    | none => false

/-- An order for one unit to walk to a random point of an area. -/
def sendTo (area : Box) (state : List MoveOrder × Random.Source) (id : EntityId) :
    List MoveOrder × Random.Source :=
  let (x, source) := state.2.range area.low.x area.high.x
  let (y, source) := source.range area.low.y area.high.y
  (state.1 ++ [⟨id, ⟨x, y⟩, .origin⟩], source)

/-- The orders of a frame: at every interval each idle unit is sent to a random point in view, if
anything is in view. -/
def wander (w : World) (frame : UInt64) (r : Runner) : List MoveOrder × Runner :=
  let view := w.map.view.box
  if frame % wanderInterval ≠ 0 ∨ view.high.x ≤ view.low.x ∨ view.high.y ≤ view.low.y then
    ([], r)
  else
    let (orders, source) := (idle w).foldl (sendTo view) ([], r.source)
    (orders, { r with source })

end Runner

end Skirmish
