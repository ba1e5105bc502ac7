import Skirmish.Map.Terrain
import Skirmish.Quadtree.Basic

/-!
# Match settings

What is chosen before a match starts.
-/

namespace Skirmish

/-- The setup of a match; a setting that is not given takes its default. -/
structure Settings where
  mapSize : SizeClass := .tiny
  /-- The seed of everything that is random in the match. -/
  seed : UInt64 := 1
  /-- The number of villagers at the start. -/
  villagers : UInt64 := 3
  /-- The number of resource nodes to be scattered. -/
  resources : UInt64 := 40
  /-- The number of houses around the town center. -/
  houses : UInt64 := 2
  /-- How many entries a leaf of the spatial index holds. -/
  quadtreeCapacity : UInt64 := 8
  /-- The width and the height of the viewport. -/
  viewport : Int32 × Int32 := (1024, 768)
  /-- After how many frames the runner ends; zero means never. -/
  frames : UInt64 := 600
  deriving DecidableEq, Repr

end Skirmish
