import Skirmish.World.Basic

/-!
# Looking at the world

Questions to the index, the viewport, and the selection.

## Main definitions

* `World.query` — the entities that meet a region, in the order of their ids.
* `World.rebuildIndex` — the index without empty nodes; no question is answered differently.
* `World.selectAt` — the unit under a point of the screen, selected.
-/

namespace Skirmish

namespace World

/-- The entities of one family that meet a region, in the order of their ids. -/
def query (kind : EntityKind) (region : Box) (w : World) : Except Fault (List EntityId) :=
  (w.index.query kind region []).map EntityId.sort

/-- File all entities anew. -/
def rebuildIndex (w : World) : Except Fault World := do
  let index ← w.index.rebuild
  .ok { w with index }

/-- Look at another part of the map. -/
def reshapeViewport (x y width height : Int32) (w : World) : World :=
  { w with map := w.map.reshape x y width height }

/-- Whether a unit that has been projected can be picked at a point of the screen. -/
def pickable (screen : Point) (u : GameUnit) : Bool :=
  !u.isDead && decide (screen ∈ u.body.screen)

/-- The later of the unit found so far and another one. -/
def later (found : Option EntityId) (id : EntityId) : EntityId :=
  match found with
  | some best => best.max id
  | none => id

/-- One candidate of a click: its screen box is computed anew, and if it can be picked and has a
later id than the unit found so far, it takes its place. -/
def consider (view : Viewport) (screen : Point) (state : Option EntityId × Roster) (id : EntityId) :
    Option EntityId × Roster :=
  match state.2.unit? id with
  | none => state
  | some u =>
    let u := u.project view
    (if pickable screen u then some (later state.1 id) else state.1, state.2.setUnit u)

/-- Select the live unit under a point of the screen, the one with the latest id if there are
several, or nothing. -/
def selectAt (screen : Point) (w : World) : Except Fault World := do
  let candidates ← w.index.query .unit w.map.view.box []
  let (found, roster) := candidates.foldl (consider w.map.view screen) (none, w.roster)
  .ok { w with roster, selected := found }

/-- Select a unit, or nothing; an id without a unit selects nothing. -/
def select (id : Option EntityId) (w : World) : World :=
  { w with selected := id.filter fun id => (w.unit? id).isSome }

/-- The selected unit, if it is still there. -/
def selected? (w : World) : Option GameUnit := w.selected.bind w.unit?

end World

end Skirmish
