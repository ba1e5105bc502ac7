import Skirmish.Map.Basic
import Skirmish.Noise.Simplex

/-!
# Relief

The terrain and the heights of a generated map.  Two noise fields, elevation and moisture, decide
what each cell is made of.  The fields may be any functions of the noise coordinates.

## Main definitions

* `Relief.sample` — the terrain and the height at a position.
* `Map.shape` — the map with every cell made anew after a relief.
* `Map.terraform` — the map with every cell made anew from a seed.
-/

namespace Skirmish

/-- The two fields that the terrain follows. -/
structure Relief where
  elevation : Float → Float → Float
  moisture : Float → Float → Float

namespace Relief

/-- The fields of a seed; moisture follows the next seed, wrapping. -/
def ofSeed (seed : UInt32) : Relief :=
  ⟨(Noise.Field.ofSeed seed).value, (Noise.Field.ofSeed (seed + 1)).value⟩

/-- How many noise units one world unit is. -/
def frequency : Float := 0.0025

/-- Elevations below this are under water. -/
def shore : Float := 0.3

/-- A value brought into the unit interval. -/
def clampUnit (a : Float) : Float :=
  if a < 0 then 0 else if a > 1 then 1 else a

/-- The byte nearest to a number that is not negative, a half going up; what is not a number goes to
zero. -/
def nearestByte (a : Float) : UInt8 :=
  let whole := a.toUInt8
  if 0.5 ≤ a - whole.toFloat then whole + 1 else whole

/-- The elevation at noise coordinates, from two octaves, in the unit interval. -/
def elevationAt (r : Relief) (x y : Float) : Float :=
  let octaves := (r.elevation x y + 0.5 * r.elevation (x * 2) (y * 2)) / 1.5
  clampUnit ((octaves + 1) * 0.5)

/-- The moisture at noise coordinates. -/
def moistureAt (r : Relief) (x y : Float) : Float :=
  (r.moisture (x * 1.5) (y * 1.5) + 1) * 0.5

/-- The terrain for an elevation and a moisture. -/
def terrainFor (elevation moisture : Float) : Terrain :=
  if elevation < shore then .water
  else if moisture < 0.3 then .desert
  else if moisture > 0.65 then .forest
  else .grass

/-- The height of a cell of the given terrain; water is level. -/
def heightFor (terrain : Terrain) (elevation : Float) : UInt8 :=
  if terrain = .water then 0
  else nearestByte ((elevation - shore) / 0.7 * 7)

/-- The terrain and the height at a position. -/
def sample (r : Relief) (p : Point) : Terrain × UInt8 :=
  let x := Noise.Field.ofLattice p.x.toInt * frequency
  let y := Noise.Field.ofLattice p.y.toInt * frequency
  let elevation := r.elevationAt x y
  let terrain := terrainFor elevation (r.moistureAt x y)
  (terrain, heightFor terrain elevation)

end Relief

namespace Map

/-- The grid with one cell made after the relief at its center. -/
def shapeCell (relief : Relief) (g : Grid) (cell : UInt32 × UInt32) : Except Fault Grid := do
  let center ← cellCenter cell.1 cell.2
  match g.index? cell.1 cell.2 with
  | some i =>
    let (terrain, height) := relief.sample center
    .ok ((g.writeTerrain i terrain).writeHeight i height)
  | none => .ok g

/-- The map with every cell made anew after a relief. -/
def shape (relief : Relief) (m : Map) : Except Fault Map := do
  let grid ← m.grid.cells.foldlM (shapeCell relief) m.grid
  .ok { m with grid }

/-- The map with every cell made anew after the relief of a seed. -/
def terraform (seed : UInt32) (m : Map) : Except Fault Map := m.shape (.ofSeed seed)

end Map

end Skirmish
