import Skirmish.Animation
import Skirmish.Entity.Footprint

/-!
# Buildings

## Main definitions

* `Building` — the kinds of building, with their strength, ground and look.
* `Overlay` — the second layer of frames drawn over a building.
-/

namespace Skirmish

/-- A kind of building. -/
inductive Building where
  | townCenter
  | house
  deriving DecidableEq, Repr, Inhabited

namespace Building

/-- Every kind of building, in order. -/
def all : List Building := [.townCenter, .house]

/-- The name under which a kind is written. -/
def name : Building → String
  | .townCenter => "TownCenter"
  | .house => "House"

/-- The hit points of a building. -/
def hitPoints : Building → UInt32
  | .townCenter => 600
  | .house => 75

/-- The side of a building in terrain cells. -/
def cells : Building → UInt32
  | .townCenter => 3
  | .house => 2

/-- The ground that a building takes. -/
def footprint : Building → Footprint
  | .townCenter => ⟨3, 3, 0, ⟨48, 48⟩, by rfl⟩
  | .house => ⟨2, 2, 0, ⟨32, 32⟩, by rfl⟩

/-- The frame set of a building. -/
def frames : Building → FrameSet
  | .townCenter => .townCenter
  | .house => .house

/-- The frame set drawn over a building. -/
def overlayFrames : Building → FrameSet
  | .townCenter => .townCenterOverlay
  | .house => .houseOverlay

end Building

/-- The second layer of frames of a building. -/
structure Overlay where
  frames : FrameSet
  frame : UInt32
  deriving DecidableEq, Repr

/-- Show the next frame of an overlay. -/
def Overlay.advance (o : Overlay) : Except Fault Overlay := do
  let frame ← o.frames.next o.frame
  .ok { o with frame }

end Skirmish
