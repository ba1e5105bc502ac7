import Skirmish.Map.Terrain

/-!
# Terrain grids

A grid stores a terrain and a height for each of its cells, row by row.  Its two buffers have one
place for each cell, by type.

## Main definitions

* `Grid` — the grid, and `Grid.blank`, which is grass at height zero.
* `Grid.allocate` — a blank grid, unless a dimension is zero or there is no memory for it.
* `Grid.terrainAt?`, `Grid.heightAt?` — what a cell holds; nothing outside the grid.
* `Grid.setTerrain?`, `Grid.setHeight?` — the grid with one cell changed; nothing outside the grid.
* `Grid.cells` — the cells of a grid, row by row.
-/

namespace Skirmish

/-- A rectangular grid of cells. -/
structure Grid where
  /-- The number of columns. -/
  width : UInt32
  /-- The number of rows. -/
  height : UInt32
  terrain : Array Terrain
  heights : Array UInt8
  terrain_size : terrain.size = width.toNat * height.toNat
  heights_size : heights.size = width.toNat * height.toNat

/-- Why a grid is not allocated. -/
inductive AllocationError where
  /-- A dimension is zero. -/
  | emptyDimension
  /-- The memory for the buffers is not granted. -/
  | outOfMemory
  deriving DecidableEq, Repr

/-- The report of a failed allocation. -/
def AllocationError.message : AllocationError → String
  | .emptyDimension => "map dimension must be non-zero"
  | .outOfMemory => "map allocation failed"

namespace Grid

/-- The greatest height of a cell. -/
def maxHeight : UInt8 := 7

/-- The grid of grass at height zero. -/
def blank (width height : UInt32) : Grid :=
  { width, height
    terrain := Array.replicate (width.toNat * height.toNat) .grass
    heights := Array.replicate (width.toNat * height.toNat) 0
    terrain_size := Array.size_replicate
    heights_size := Array.size_replicate }

/-- The grid without cells. -/
def empty : Grid := blank 0 0

/-- A blank grid.  Whether there is memory for its buffers is up to the allocator, and so the answer
to the request for it is given. -/
def allocate (granted : Bool) (width height : UInt32) : Except AllocationError Grid :=
  if width = 0 ∨ height = 0 then .error .emptyDimension
  else if granted then .ok (blank width height)
  else .error .outOfMemory

/-- The place of a cell in the buffers, if the cell is inside the grid. -/
def index? (g : Grid) (col row : UInt32) : Option Nat :=
  if col < g.width ∧ row < g.height then some (row.toNat * g.width.toNat + col.toNat) else none

/-- The terrain of a cell. -/
def terrainAt? (g : Grid) (col row : UInt32) : Option Terrain :=
  (g.index? col row).bind fun i => g.terrain[i]?

/-- The height of a cell. -/
def heightAt? (g : Grid) (col row : UInt32) : Option UInt8 :=
  (g.index? col row).bind fun i => g.heights[i]?

/-- The grid with another terrain at one place of its buffer. -/
def writeTerrain (g : Grid) (i : Nat) (terrain : Terrain) : Grid :=
  { g with
    terrain := g.terrain.setIfInBounds i terrain
    terrain_size := by rw [Array.size_setIfInBounds, g.terrain_size] }

/-- The grid with another height at one place of its buffer. -/
def writeHeight (g : Grid) (i : Nat) (height : UInt8) : Grid :=
  { g with
    heights := g.heights.setIfInBounds i height
    heights_size := by rw [Array.size_setIfInBounds, g.heights_size] }

/-- The grid with another terrain in one cell. -/
def setTerrain? (g : Grid) (col row : UInt32) (terrain : Terrain) : Option Grid :=
  (g.index? col row).map fun i => g.writeTerrain i terrain

/-- The grid with another height in one cell, at most the greatest height. -/
def setHeight? (g : Grid) (col row : UInt32) (height : UInt8) : Option Grid :=
  (g.index? col row).map fun i => g.writeHeight i (if height ≤ maxHeight then height else maxHeight)

/-- The cells of a grid, row by row. -/
def cells (g : Grid) : List (UInt32 × UInt32) :=
  (List.range g.height.toNat).flatMap fun row =>
    (List.range g.width.toNat).map fun col => (UInt32.ofNat col, UInt32.ofNat row)

/-- How many cells have a terrain. -/
def countTerrain (g : Grid) (terrain : Terrain) : Nat :=
  g.terrain.count terrain

/-- How many cells have a height. -/
def countHeight (g : Grid) (height : UInt8) : Nat :=
  g.heights.count height

end Grid

end Skirmish
