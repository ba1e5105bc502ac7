import Skirmish.Fault

/-!
# Frame sets

An entity is shown by one frame of a frame set at a time.  The pictures belong to the renderer; the
world knows a set by its number and by how many frames it has.

## Main definitions

* `FrameSet` — a handle of a frame set.
* `FrameSet.next` — the frame after a frame, wrapping at the end of the set.
-/

namespace Skirmish

/-- The handle of a set of frames. -/
structure FrameSet where
  /-- The number under which the renderer finds the set. -/
  id : UInt32
  /-- How many frames the set has. -/
  count : UInt32
  deriving DecidableEq, Repr, Inhabited

namespace FrameSet

/-- A frame index, if the set has that frame. -/
def frame? (s : FrameSet) (index : UInt32) : Option UInt32 :=
  if index < s.count then some index else none

/-- The index after an index, wrapping at the end of the set; an empty set stays at zero. -/
def next (s : FrameSet) (index : UInt32) : Except Fault UInt32 :=
  if s.count = 0 then .ok 0
  else if index.toNat + 1 < UInt32.size then .ok ((index + 1) % s.count)
  else .error .addition

/-! ### The sets of the presets -/

def villagerStand : FrameSet := ⟨418, 6⟩
def villagerWalk : FrameSet := ⟨657, 15⟩
def berryBush : FrameSet := ⟨240, 1⟩
def tree : FrameSet := ⟨463, 4⟩
def goldMine : FrameSet := ⟨481, 7⟩
def stoneMine : FrameSet := ⟨622, 7⟩
def townCenter : FrameSet := ⟨280, 4⟩
def townCenterOverlay : FrameSet := ⟨254, 4⟩
def house : FrameSet := ⟨230, 4⟩
def houseOverlay : FrameSet := ⟨226, 4⟩
def debris : FrameSet := ⟨366, 8⟩

end FrameSet

end Skirmish
