import Skirmish.Animation
import Skirmish.Entity.Footprint
import Skirmish.Map.Viewport
import Skirmish.Picture

/-!
# Particles

The lightest things of the world: they stand somewhere, take some ground and show a frame.  Every
unit has a particle as its body.

## Main definitions

* `Particle` — the record, and `Particle.create`, `Particle.debris`.
* `Particle.bounds` — the ground it takes, as a box.
* `Particle.screenBox`, `Particle.project` — its box on the screen, computed and remembered.
* `Particle.animate` — showing the next frame, or the first one of another set.
-/

namespace Skirmish

/-- Something that is seen. -/
structure Particle where
  id : EntityId
  pos : Point
  /-- The box on the screen, as of the last time it was computed. -/
  screen : Box
  /-- The displacement of the sprite from the position. -/
  shift : Point
  footprint : Footprint
  color : UInt32
  /-- The frame set that is shown. -/
  frames : FrameSet
  /-- The frame of it that is shown. -/
  frame : UInt32

namespace Particle

/-- A particle that shows the first frame of a set; its screen box is not yet projected. -/
def create (id : EntityId) (pos : Point) (footprint : Footprint) (frames : FrameSet)
    (color : UInt32) (shift : Point) : Particle :=
  { id, pos, screen := ⟨pos, footprint.half⟩, shift, footprint, color, frames, frame := 0 }

/-- A piece of debris. -/
def debris (id : EntityId) (pos : Point) (color : UInt32) : Particle :=
  create id pos (.ofDiameter 8) .debris color .origin

/-- Particles are told apart by their ids alone. -/
def same (p q : Particle) : Bool := decide (p.id = q.id)

/-- The ground that a particle takes. -/
def bounds (p : Particle) : Box := ⟨p.pos, p.footprint.half⟩

/-- The box on the screen: the projected position, displaced by the shift. -/
def screenBox (v : Viewport) (p : Particle) : Box :=
  let shown := v.project p.pos
  ⟨⟨Coord.addSat shown.x p.shift.x, Coord.addSat shown.y p.shift.y⟩, p.footprint.half⟩

/-- Remember the box on the screen for a viewport. -/
def project (v : Viewport) (p : Particle) : Particle :=
  { p with screen := p.screenBox v }

@[simp] theorem id_project (v : Viewport) (p : Particle) : (p.project v).id = p.id := rfl

@[simp] theorem bounds_project (v : Viewport) (p : Particle) : (p.project v).bounds = p.bounds := rfl

/-- Show the next frame. -/
def advance (p : Particle) : Except Fault Particle := do
  let frame ← p.frames.next p.frame
  .ok { p with frame }

/-- Show a frame set: the next frame if it is shown already, else its first frame. -/
def animate (frames : FrameSet) (p : Particle) : Except Fault Particle :=
  if p.frames = frames then p.advance else .ok { p with frames, frame := 0 }

/-- The sprite of a particle. -/
def sprite (v : Viewport) (p : Particle) : Sprite :=
  { entity := p.id
    animation := p.frames.id
    frame := p.frame
    screen := p.screenBox v
    color := p.color
    layer := .base }

end Particle

end Skirmish
