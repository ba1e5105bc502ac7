import Skirmish.World.Selection

/-!
# Frames

One frame of a match: every mobile unit takes a tick, what is visible is found, and a picture of it
is made.

## Main definitions

* `World.tick` — one tick of every mobile unit, in the order of the ids.
* `World.cull` — what the viewport shows, with fresh screen boxes.
* `World.drawOn`, `World.draw` — a draw list drawn onto a picture, and the picture of it alone.
* `World.frame` — a tick, then a picture.
-/

namespace Skirmish

/-- The counts of one frame. -/
structure FrameStats where
  /-- Mobile units that took a tick. -/
  ticked : Nat
  /-- Units whose position changed. -/
  moved : Nat
  visibleUnits : Nat
  visibleParticles : Nat
  /-- Dead units in view that were not drawn. -/
  deadCulled : Nat
  deriving DecidableEq, Repr

namespace FrameStats

/-- The counts before the first frame. -/
def none : FrameStats := ⟨0, 0, 0, 0, 0⟩

/-- The counts of a tick, before anything is drawn. -/
def ofTick (ticked moved : Nat) : FrameStats := { none with ticked, moved }

/-- The counts with those of a draw list. -/
def withDrawn (list : DrawList) (s : FrameStats) : FrameStats :=
  { s with
    visibleUnits := list.units.length
    visibleParticles := list.particles.length
    deadCulled := list.deadCulled }

end FrameStats

namespace World

/-! ### Ticks -/

/-- One tick of a unit.  A unit that has moved is kept inside the map, projected and filed anew.
The first component says whether it has moved. -/
def tickUnit (u : GameUnit) (w : World) : Except Fault (Bool × World) := do
  let (u, moved) ← u.tick
  if moved then do
    let fitted ← w.map.clamp u.bounds
    let u := (u.settle fitted.center).project w.map.view
    let (_, index) ← w.index.update .unit u.id u.bounds
    .ok (true, { w with roster := w.roster.setUnit u, index })
  else
    .ok (false, { w with roster := w.roster.setUnit u })

/-- A world in the middle of a tick, with the counts so far. -/
structure Ticking where
  ticked : Nat
  moved : Nat
  world : World

/-- Let the unit with an id take its tick, if there is one. -/
def Ticking.step (state : Ticking) (id : EntityId) : Except Fault Ticking :=
  match state.world.unit? id with
  | none => .ok state
  | some u => do
    let (moved, world) ← state.world.tickUnit u
    .ok ⟨state.ticked + 1, state.moved + (if moved then 1 else 0), world⟩

/-- One tick of every mobile unit, in the order of the ids. -/
def tick (w : World) : Except Fault Ticking :=
  -- the ids are listed once: a unit that falls out of the index on the way is ticked all the same
  w.index.mobileIds.foldlM Ticking.step ⟨0, 0, w⟩

/-! ### Culling -/

/-- The roster with the screen box of a particle computed anew. -/
def projectParticle (view : Viewport) (r : Roster) (id : EntityId) : Roster :=
  match r.particle? id with
  | some p => r.setParticle (p.project view)
  | none => r

/-- A draw list in the making, with the roster so far. -/
structure Culling where
  /-- The live units so far, the last one first. -/
  units : List EntityId
  dead : Nat
  roster : Roster

/-- One unit in view: a dead one is counted, a live one is projected and listed. -/
def Culling.step (view : Viewport) (state : Culling) (id : EntityId) : Culling :=
  match state.roster.unit? id with
  | none => state
  | some u =>
    if u.isDead then { state with dead := state.dead + 1 }
    else
      { state with
        units := id :: state.units
        roster := state.roster.setUnit (u.project view) }

/-- What the viewport shows: particles and live units, each in the order of the ids.  Their screen
boxes are computed anew. -/
def cull (w : World) : Except Fault (DrawList × World) := do
  let view := w.map.view
  let particles ← w.query .particle view.box
  let roster := particles.foldl (projectParticle view) w.roster
  let units ← w.query .unit view.box
  let culled := units.foldl (Culling.step view) ⟨[], 0, roster⟩
  .ok (⟨particles, culled.units.reverse, culled.dead⟩, { w with roster := culled.roster })

/-! ### Drawing -/

/-- The sprites of a draw list: particles first, then units, as listed. -/
def sprites (list : DrawList) (w : World) : List Sprite :=
  (list.particles.filterMap w.particle?).map (Particle.sprite w.map.view)
    ++ (list.units.filterMap w.unit?).flatMap (GameUnit.sprites w.map.view)

/-- The marker around the selected unit, if it is on the list. -/
def marker (list : DrawList) (w : World) : Option (EntityId × Box) :=
  let drawn := w.selected.filter fun id => decide (id ∈ list.units)
  (drawn.bind w.unit?).map (GameUnit.marker w.map.view)

/-- Draw a draw list onto a picture. -/
def drawOn (p : Picture) (list : DrawList) (w : World) : Picture :=
  (p.addSprites (w.sprites list)).setMarker (w.marker list)

/-- The picture of a draw list. -/
def draw (list : DrawList) (w : World) : Picture := ⟨w.sprites list, w.marker list⟩

/-! ### Frames -/

/-- What a frame gives. -/
structure Framed where
  picture : Picture
  stats : FrameStats
  world : World

/-- One frame: a tick, then a picture of what is in view. -/
def frame (w : World) : Except Fault Framed := do
  let ticking ← w.tick
  let (list, world) ← ticking.world.cull
  .ok
    { picture := world.draw list
      stats := (FrameStats.ofTick ticking.ticked ticking.moved).withDrawn list
      world }

end World

end Skirmish
