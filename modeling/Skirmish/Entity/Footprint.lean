import Skirmish.Geometry.Box

/-!
# Footprints

The ground that an entity takes.  It is asked for either in terrain cells or, when no cells are
given, as the diameter of a square; what is used everywhere is the pair of half-extents, each at
least one.

## Main definitions

* `Footprint.measure` — the half-extents for a request; cells beyond the coordinate range are a
  fault.
* `Footprint` — a request together with its half-extents, so that measuring is done once.
* `Footprint.of?`, `Footprint.ofDiameter` — the footprints for a request and for a diameter.
-/

namespace Skirmish

/-- The side of a terrain cell in world units. -/
abbrev cellSize : Int32 := 32

namespace Footprint

/-- Half of an extent, at least one. -/
def halve (extent : Int32) : Int32 :=
  if extent / 2 < 1 then 1 else extent / 2

/-- The half-extents for a request: from the cells if there are any, else from the diameter. -/
def measure (cellsWide cellsHigh diameter : UInt32) : Except Fault Point :=
  if 0 < cellsWide ∨ 0 < cellsHigh then do
    let width ← Coord.mul cellsWide.toInt32 cellSize
    let height ← Coord.mul cellsHigh.toInt32 cellSize
    .ok ⟨halve width, halve height⟩
  else
    .ok ⟨halve diameter.toInt32, halve diameter.toInt32⟩

end Footprint

/-- The ground that an entity takes. -/
structure Footprint where
  cellsWide : UInt32
  cellsHigh : UInt32
  /-- The diameter, which counts only when both cell counts are zero. -/
  diameter : UInt32
  /-- The half-extents. -/
  half : Point
  half_eq : Footprint.measure cellsWide cellsHigh diameter = .ok half

namespace Footprint

/-- The footprint for a request, or the fault of measuring it. -/
def of? (cellsWide cellsHigh diameter : UInt32) : Except Fault Footprint :=
  match h : measure cellsWide cellsHigh diameter with
  | .ok half => .ok ⟨cellsWide, cellsHigh, diameter, half, h⟩
  | .error fault => .error fault

/-- The square footprint with a diameter. -/
def ofDiameter (diameter : UInt32) : Footprint :=
  ⟨0, 0, diameter, ⟨halve diameter.toInt32, halve diameter.toInt32⟩, rfl⟩

/-- A footprint reaches at least one unit to each side of its center. -/
theorem one_le_halve (extent : Int32) : 1 ≤ halve extent := by
  unfold halve
  split
  · decide
  · next h => rwa [Int32.not_lt] at h

end Footprint

end Skirmish
