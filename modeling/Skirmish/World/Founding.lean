import Skirmish.Map.Relief
import Skirmish.Random.ChaCha
import Skirmish.Settings.Basic
import Skirmish.World.Basic

/-!
# Founding a match

A match starts on generated terrain, with a town in the middle of the map and resources scattered
over the land around it.

What founding does not decide by itself — how the land is shaped, where an angle points and what is
drawn at random — it takes from its `Means`.

## Main definitions

* `Means` — what founding is given.
* `World.clearTownGround` — grass under the town.
* `World.foundTown` — the town center, its houses around it, and the villagers below.
* `World.scatter` — resource nodes at random places on land, away from the town.
* `World.colonize`, `World.found` — a town, and a town with resources, on any map.
* `World.generateBy`, `World.generate` — a match from its settings, by any means and by the usual
  ones.
-/

namespace Skirmish

/-- What founding a match is given. -/
structure Means (σ : Type) where
  /-- The noise fields of a seed. -/
  relief : UInt32 → Relief
  /-- The cosine of an angle. -/
  cos : Float32 → Float32
  /-- The sine of an angle. -/
  sin : Float32 → Float32
  dice : Random.Dice σ

/-- The means by which matches are founded. -/
def Means.usual : Means Random.Source := ⟨.ofSeed, Float32.cos, Float32.sin, Random.ChaCha.dice⟩

namespace World

variable {σ : Type}

/-- Everything closer to the center of the map than this is town ground. -/
def townRadius : Int32 := 192

/-! ### The town -/

/-- The square of the distance between two points. -/
def distanceSquared (p q : Point) : Except Fault Int32 := do
  let dx ← Coord.sub p.x q.x
  let dx2 ← Coord.square dx
  let dy ← Coord.sub p.y q.y
  let dy2 ← Coord.square dy
  Coord.add dx2 dy2

/-- Make one cell grass if its center is town ground. -/
def clearCell (center : Point) (g : Grid) (cell : UInt32 × UInt32) : Except Fault Grid := do
  let middle ← cellCenter cell.1 cell.2
  let distance ← distanceSquared middle center
  let radius ← Coord.square townRadius
  if distance < radius then .ok ((g.setTerrain? cell.1 cell.2 .grass).getD g) else .ok g

/-- Make all town ground grass. -/
def clearTownGround (center : Point) (w : World) : Except Fault World := do
  let grid ← w.map.grid.cells.foldlM (clearCell center) w.map.grid
  .ok { w with map := { w.map with grid } }

/-- A full turn in single precision. -/
def fullTurn : Float32 := Float32.ofBits 0x40C90FDB

/-- The direction of house `i` of `n`, as an angle. -/
def houseAngle (n i : Nat) : Float32 :=
  i.toUInt64.toFloat32 / (max n 1).toUInt64.toFloat32 * fullTurn

/-- How far a house lies from the center along an axis, given the cosine or sine of its angle. -/
def houseOffset (part : Float32) : Int32 := Single.truncate (part * 4 * 32)

/-- The place of house `i` of `n`: four cells from the center, all around it. -/
def housePlace (means : Means σ) (center : Point) (n i : Nat) : Except Fault Point := do
  let angle := houseAngle n i
  let x ← Coord.add center.x (houseOffset (means.cos angle))
  let y ← Coord.add center.y (houseOffset (means.sin angle))
  .ok ⟨x, y⟩

/-- The place of villager `i`: rows of five, below the town center. -/
def villagerPlace (center : Point) (i : Nat) : Except Fault Point := do
  -- counted in coordinates, so that very many villagers start over
  let number := Int32.ofNat i
  let left ← Coord.sub center.x 64
  let column ← Coord.mul (number % 5) cellSize
  let x ← Coord.add left column
  let top ← Coord.sub center.y 96
  let row ← Coord.mul (number / 5) cellSize
  let y ← Coord.sub top (row / 2)
  .ok ⟨x, y⟩

/-- The color of villager `i`; the player colors take turns. -/
def villagerColor (i : Nat) : UInt32 := 1 + UInt32.ofNat i % 8

/-- Build house `i` of `n`. -/
def addHouse (means : Means σ) (center : Point) (n : Nat) (w : World) (i : Nat) :
    Except Fault World := do
  let place ← housePlace means center n i
  (w.spawnBuilding place .house 1).map Prod.snd

/-- Let villager `i` join. -/
def addVillager (center : Point) (w : World) (i : Nat) : Except Fault World := do
  let place ← villagerPlace center i
  (w.spawnVillager place (villagerColor i)).map Prod.snd

/-- A town: its center, houses and villagers. -/
def foundTown (means : Means σ) (center : Point) (houses villagers : Nat) (w : World) :
    Except Fault World := do
  let (_, w) ← w.spawnBuilding center .townCenter 1
  let w ← (List.range houses).foldlM (addHouse means center houses) w
  (List.range villagers).foldlM (addVillager center) w

/-! ### Resources -/

/-- A world under construction, with the state that is drawn from. -/
structure Founding (σ : Type) where
  world : World
  source : σ

/-- A random point at least one cell away from the edges of an area. -/
def drawPlace (dice : Random.Dice σ) (area : Box) (source : σ) : Except Fault (Point × σ) := do
  let left ← Coord.add area.low.x cellSize
  let right ← Coord.sub area.high.x cellSize
  let (x, source) := dice.range left right source
  let bottom ← Coord.add area.low.y cellSize
  let top ← Coord.sub area.high.y cellSize
  let (y, source) := dice.range bottom top source
  .ok (⟨x, y⟩, source)

/-- A random kind of resource that suits the terrain. -/
def drawResource (dice : Random.Dice σ) (terrain : Option Terrain) (source : σ) : Resource × σ :=
  match terrain with
  | some .forest => (.wood, source)
  | some .desert =>
    let (isGold, source) := dice.chance 0.5 source
    (if isGold then .gold else .stone, source)
  | _ =>
    let (isFood, source) := dice.chance 0.6 source
    (if isFood then .food else .wood, source)

/-- One attempt to place a resource node: water and the surroundings of the town are left free. The
first component says whether a node was placed. -/
def scatterOne (dice : Random.Dice σ) (area : Box) (f : Founding σ) :
    Except Fault (Bool × Founding σ) := do
  let (place, source) ← drawPlace dice area f.source
  let (col, row) := f.world.map.cellOf place
  let terrain := f.world.map.grid.terrainAt? col row
  if terrain = some .water then .ok (false, { f with source })
  else do
    let distance ← distanceSquared place area.center
    let diameter ← Coord.mul townRadius 2
    let limit ← Coord.square diameter
    if distance < limit then .ok (false, { f with source })
    else do
      let (kind, source) := drawResource dice terrain source
      let (id, world) ← f.world.spawnResource place kind
      .ok (id.isSome, ⟨world, source⟩)

/-- Place up to `goal` resource nodes within a number of attempts. -/
def scatter (dice : Random.Dice σ) (area : Box) : (attempts goal : Nat) → Founding σ →
    Except Fault (Founding σ)
  | 0, _, f => .ok f
  | _, 0, f => .ok f
  | attempts + 1, goal + 1, f => do
    let (isPlaced, f) ← scatterOne dice area f
    scatter dice area attempts (if isPlaced then goal else goal + 1) f

/-- How often placing is attempted for a number of resource nodes. -/
def attemptsFor (resources : Nat) : Nat := min (resources * 20) (UInt64.size - 1)

/-! ### The match -/

/-- A town on cleared ground in the middle of the map, with the viewport over it. -/
def colonize (means : Means σ) (s : Settings) (center : Point) (w : World) : Except Fault World := do
  let left ← Coord.sub center.x (s.viewport.1 / 2)
  let bottom ← Coord.sub center.y (s.viewport.2 / 2)
  let w := { w with map := w.map.reshape left bottom s.viewport.1 s.viewport.2 }
  let w ← w.clearTownGround center
  w.foundTown means center s.houses.toNat s.villagers.toNat

/-- Town and resources on the map of a world, drawing from a state. -/
def found (means : Means σ) (s : Settings) (source : σ) (w : World) : Except Fault World := do
  let area ← w.map.bounds
  let w ← w.colonize means s area.center
  let f ← scatter means.dice area (attemptsFor s.resources.toNat) s.resources.toNat ⟨w, source⟩
  .ok f.world

/-- A match from its settings; the first word that is drawn is the seed of the terrain. -/
def generateBy (means : Means σ) (s : Settings) : Except Fault World := do
  let w ← World.ofSize s.mapSize s.quadtreeCapacity.toNat
  let (seed, source) := means.dice.word (means.dice.seeded s.seed)
  let map ← w.map.shape (means.relief seed)
  found means s source { w with map }

/-- A match from its settings by the usual means. -/
def generate (s : Settings) : Except Fault World := generateBy .usual s

end World

end Skirmish
