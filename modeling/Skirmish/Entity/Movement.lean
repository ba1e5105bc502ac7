import Skirmish.Animation
import Skirmish.Single

/-!
# Movement

A mobile unit walks straight toward its target.  Its exact position is a pair of single-precision
numbers, and where it stands is that position rounded.

## Main definitions

* `Movement` — the state of a walk.
* `Movement.step` — one tick of walking, which never passes the target.
* `Movement.retarget`, `Movement.place` — a new target, a new position.
-/

namespace Skirmish

/-- The state of a straight walk. -/
structure Movement where
  target : Point
  /-- The displacement of the last tick; zero while standing. -/
  velocity : Displacement
  /-- The distance walked in one tick. -/
  speed : Float32
  /-- The frame set shown while standing. -/
  stand : FrameSet
  /-- The frame set shown while walking. -/
  walk : FrameSet
  /-- The position before rounding. -/
  exact : Displacement

namespace Movement

/-- A unit that stands at a point. -/
def standing (pos : Point) (speed : Float32) (stand walk : FrameSet) : Movement :=
  { target := pos, velocity := .zero, speed, stand, walk, exact := .ofPoint pos }

/-- Whether the last tick walked. -/
def isMoving (m : Movement) : Bool := !m.velocity.isZero

/-- The frame set that suits the state of the walk. -/
def gait (m : Movement) : FrameSet := if m.isMoving then m.walk else m.stand

/-- The point that a unit stands on. -/
def position (m : Movement) : Point := m.exact.toPoint

/-- What is left of the way. -/
def remaining (m : Movement) : Displacement := (Displacement.ofPoint m.target).sub m.exact

/-- The distance to the target. -/
def distance (m : Movement) : Float32 := m.remaining.length

/-- Aim at another target; the unit stands until its next step. -/
def retarget (target : Point) (m : Movement) : Movement :=
  { m with target, velocity := .zero }

/-- Put the exact position onto a point. -/
def place (pos : Point) (m : Movement) : Movement :=
  { m with exact := .ofPoint pos }

/-- The distance within which a unit arrives in one step. -/
def reach (m : Movement) : Float32 := Single.max m.speed 0.5

/-- One tick of walking: onto the target if it is within reach, else along the way by the speed. -/
def step (m : Movement) : Movement :=
  if m.distance ≤ m.reach then
    { m with exact := .ofPoint m.target, velocity := .zero }
  else
    let velocity := m.remaining.rescale m.distance m.speed
    { m with velocity, exact := m.exact.add velocity }

end Movement

end Skirmish
