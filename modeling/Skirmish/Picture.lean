import Skirmish.Entity.Id
import Skirmish.Geometry.Box

/-!
# Pictures

What a renderer is asked to draw, as data: sprites in drawing order and at most one selection
marker.

## Main definitions

* `Sprite` — one frame placed on the screen.
* `Picture` — the sprites and the marker of one frame.
* `DrawList` — the ids that a picture is drawn from.
-/

namespace Skirmish

/-- The layer of a sprite; an overlay follows the base sprite that it belongs to. -/
inductive Layer where
  | base
  | overlay
  deriving DecidableEq, Repr

/-- One frame of a frame set, placed on the screen. -/
structure Sprite where
  entity : EntityId
  /-- The number of the frame set. -/
  animation : UInt32
  frame : UInt32
  screen : Box
  color : UInt32
  layer : Layer
  deriving DecidableEq, Repr

/-- What is drawn in one frame. -/
structure Picture where
  /-- The sprites in drawing order. -/
  sprites : List Sprite
  /-- The selected unit and its box on the screen, if it is drawn. -/
  marker : Option (EntityId × Box)
  deriving DecidableEq, Repr

namespace Picture

/-- The picture of nothing. -/
def blank : Picture := ⟨[], none⟩

/-- Draw sprites, one after the other, behind those that are drawn already. -/
def addSprites (sprites : List Sprite) (p : Picture) : Picture :=
  { p with sprites := p.sprites ++ sprites }

/-- Draw a marker, if there is one, in place of the marker that is drawn already. -/
def setMarker (marker : Option (EntityId × Box)) (p : Picture) : Picture :=
  { p with marker := marker.or p.marker }

/-- Wipe a picture, so that its place can be drawn on anew. -/
def clear (p : Picture) : Picture := { p with sprites := [], marker := none }

/-- The entities in drawing order, once for each base sprite. -/
def entityOrder (p : Picture) : List EntityId :=
  (p.sprites.filter fun s => decide (s.layer = .base)).map Sprite.entity

end Picture

/-- The entities to be drawn in one frame. -/
structure DrawList where
  particles : List EntityId
  units : List EntityId
  /-- How many dead units were left out. -/
  deadCulled : Nat
  deriving DecidableEq, Repr

end Skirmish
