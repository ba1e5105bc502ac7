import Skirmish.Geometry.Box

/-!
# The viewport

The part of the world that the player sees, given by its four edges.
-/

namespace Skirmish

/-- The edges of the visible rectangle. -/
structure Viewport where
  left : Int32
  bottom : Int32
  right : Int32
  top : Int32
  deriving DecidableEq, Repr, Inhabited

namespace Viewport

/-- The viewport of a map that nobody has looked at. -/
def closed : Viewport := ⟨0, 0, 0, 0⟩

/-- The viewport with a lower left corner and extents; edges past the range saturate. -/
def place (x y w h : Int32) : Viewport :=
  ⟨x, y, Coord.addSat x w, Coord.addSat y h⟩

/-- The visible rectangle as a box. -/
def box (v : Viewport) : Box := .ofCorners v.left v.bottom v.right v.top

/-- The position that the screen's lower left corner shows. -/
def origin (v : Viewport) : Point := ⟨v.left, v.bottom⟩

/-- The screen coordinates of a position. -/
def project (v : Viewport) (p : Point) : Point :=
  ⟨Coord.subSat p.x v.left, Coord.subSat p.y v.bottom⟩

end Viewport

end Skirmish
