import Skirmish.Map.Grid
import Skirmish.Map.Viewport
import Skirmish.Entity.Footprint

/-!
# Maps

A map is a terrain grid together with the viewport onto it.  The playable area is the box over the
whole grid, and entities are kept inside it by `Map.clamp`.

## Main definitions

* `Map.bounds` — the playable area; a grid too wide for the coordinates is a fault.
* `Map.clamp` — a box moved the least distance that brings it inside the playable area.
* `Map.cellOf` — the cell under a position, and `cellCenter`, the position of a cell.
-/

namespace Skirmish

/-- A terrain grid and the part of it that is seen. -/
structure Map where
  grid : Grid
  view : Viewport

/-- The middle of a cell; a cell beyond the coordinate range is a fault. -/
def cellCenter (col row : UInt32) : Except Fault Point := do
  let left ← Coord.mul col.toInt32 cellSize
  let x ← Coord.add left (cellSize / 2)
  let bottom ← Coord.mul row.toInt32 cellSize
  let y ← Coord.add bottom (cellSize / 2)
  .ok ⟨x, y⟩

namespace Map

/-- The map without cells. -/
def empty : Map := ⟨.empty, .closed⟩

/-- A blank map of a given size, if the memory for it is granted. -/
def allocate (granted : Bool) (width height : UInt32) : Except AllocationError Map := do
  let grid ← Grid.allocate granted width height
  .ok ⟨grid, .closed⟩

/-- The map with a blank grid of a size class, for which there is memory; the viewport stays. -/
def resize (size : SizeClass) (m : Map) : Map :=
  { m with grid := .blank size.dimension size.dimension }

/-- The map seen through another viewport. -/
def reshape (x y w h : Int32) (m : Map) : Map :=
  { m with view := .place x y w h }

/-- The playable area. -/
def bounds (m : Map) : Except Fault Box := do
  let width ← Coord.mul m.grid.width.toInt32 cellSize
  let height ← Coord.mul m.grid.height.toInt32 cellSize
  .ok (.ofCorners 0 0 width height)

/-- The center nearest to `pos` of a span of the given half-extent inside `[lo, hi)`; the middle if
no span fits. -/
def clampAxis (pos half lo hi : Int32) : Except Fault Int32 := do
  let room ← Coord.sub hi lo
  let span ← Coord.mul half 2
  if room ≤ span then do
    let sum ← Coord.add lo hi
    .ok (sum / 2)
  else do
    let first ← Coord.add lo half
    let last ← Coord.sub hi half
    if last < first then .error .crossedLimits
    else .ok (if pos < first then first else if last < pos then last else pos)

/-- A box moved the least distance that brings it inside an area; on an axis where it does not fit
it is centered. -/
def clampTo (area b : Box) : Except Fault Box := do
  let x ← clampAxis b.center.x b.half.x area.low.x area.high.x
  let y ← clampAxis b.center.y b.half.y area.low.y area.high.y
  .ok (b.moveTo ⟨x, y⟩)

/-- A box moved the least distance that brings it inside the playable area. -/
def clamp (m : Map) (b : Box) : Except Fault Box := do
  let area ← m.bounds
  clampTo area b

/-- The last index of a dimension, or zero. -/
def lastIndex (dimension : UInt32) : UInt32 :=
  if dimension = 0 then 0 else dimension - 1

/-- The cell index that a coordinate falls into, along a dimension of the grid. -/
def cellIndex (dimension : UInt32) (coordinate : Int32) : UInt32 :=
  let index := ((if coordinate < 0 then 0 else coordinate) / cellSize).toUInt32
  if index ≤ lastIndex dimension then index else lastIndex dimension

/-- The column and the row of the cell under a position; positions outside fall to the nearest
cell. -/
def cellOf (m : Map) (p : Point) : UInt32 × UInt32 :=
  (cellIndex m.grid.width p.x, cellIndex m.grid.height p.y)

end Map

end Skirmish
