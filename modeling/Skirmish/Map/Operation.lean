import Skirmish.Map.Basic

/-!
# Operations on a map

A map is changed in place: it gets blank buffers, single cells are written, the viewport moves.
Whether there is memory for the buffers is up to the allocator, so an allocation comes with the
answer to its request.

## Main definitions

* `Map.reallocate` — a blank grid in place of the old one, which stays if there is none.
* `Map.Op`, `Map.Op.perform`, `Map.run` — the operations, one of them, and several in a row.
-/

namespace Skirmish

namespace Map

/-- A blank grid in place of the old one.  If there is none, the map stays as it is. -/
def reallocate (granted : Bool) (width height : UInt32) (m : Map) :
    Except AllocationError Unit × Map :=
  match Grid.allocate granted width height with
  | .ok grid => (.ok (), { m with grid })
  | .error e => (.error e, m)

/-- An operation on a map.  An allocation comes with the answer to its request for memory. -/
inductive Op where
  /-- Allocate another map. -/
  | create (width height : UInt32) (granted : Bool)
  /-- Allocate a grid for a size class. -/
  | resize (size : SizeClass) (granted : Bool)
  | setTerrain (col row : UInt32) (terrain : Terrain)
  | setHeight (col row : UInt32) (height : UInt8)
  | reshape (x y w h : Int32)

/-- What an operation replies. -/
inductive Reply where
  | allocated (outcome : Except AllocationError Unit)
  /-- Whether a cell was written. -/
  | written (inside : Bool)
  | done

/-- The map with another grid, if there is one. -/
def write (grid? : Option Grid) (m : Map) : Reply × Map :=
  match grid? with
  | some grid => (.written true, { m with grid })
  | none => (.written false, m)

/-- What an operation replies, and the map after it. -/
def Op.perform : Op → Map → Reply × Map
  | create width height granted, m =>
    match Map.empty.reallocate granted width height with
    | (.ok (), new) => (.allocated (.ok ()), new)
    | (.error e, _) => (.allocated (.error e), m)
  | resize size granted, m =>
    let (outcome, m) := m.reallocate granted size.dimension size.dimension
    (.allocated outcome, m)
  | setTerrain col row terrain, m => m.write (m.grid.setTerrain? col row terrain)
  | setHeight col row height, m => m.write (m.grid.setHeight? col row height)
  | reshape x y w h, m => (.done, m.reshape x y w h)

/-- The map after some operations, from the map without cells. -/
def run (ops : List Op) : Map := ops.foldl (fun m op => (op.perform m).2) .empty

end Map

end Skirmish
