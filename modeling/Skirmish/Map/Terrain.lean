/-!
# Terrain

## Main definitions

* `Terrain` — what a cell is made of.
* `SizeClass` — the sizes that a match can be set up with.
-/

namespace Skirmish

/-- What a terrain cell is made of. -/
inductive Terrain where
  | grass
  | forest
  | water
  | desert
  deriving DecidableEq, Repr, Inhabited

namespace Terrain

/-- Every kind of terrain, in order. -/
def all : List Terrain := [.grass, .forest, .water, .desert]

/-- The name under which a terrain is written. -/
def name : Terrain → String
  | .grass => "Grass"
  | .forest => "Forest"
  | .water => "Water"
  | .desert => "Desert"

end Terrain

/-- The size of a match; its map is a square of cells. -/
inductive SizeClass where
  | micro
  | tiny
  | small
  | medium
  | large
  | huge
  deriving DecidableEq, Repr, Inhabited

namespace SizeClass

/-- Every size class, from the smallest to the largest. -/
def all : List SizeClass := [.micro, .tiny, .small, .medium, .large, .huge]

/-- The name under which a size class is written. -/
def name : SizeClass → String
  | .micro => "micro"
  | .tiny => "tiny"
  | .small => "small"
  | .medium => "medium"
  | .large => "large"
  | .huge => "huge"

/-- The side of the map in cells. -/
def dimension : SizeClass → UInt32
  | .micro => 24
  | .tiny => 64
  | .small => 120
  | .medium => 144
  | .large => 168
  | .huge => 220

end SizeClass

end Skirmish
