/-!
# Points

Integer positions of the world plane.
-/

namespace Skirmish

/-- A position of the world plane, or a pair of half-extents. -/
structure Point where
  /-- The horizontal coordinate, growing to the right. -/
  x : Int32
  /-- The vertical coordinate, growing upward. -/
  y : Int32
  deriving DecidableEq, Repr, Inhabited

/-- The point with both coordinates zero. -/
def Point.origin : Point := ⟨0, 0⟩

end Skirmish
