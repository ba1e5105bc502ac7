import Skirmish.Geometry.Box
import Skirmish.Json.Codec

/-!
# Points and boxes as texts
-/

namespace Skirmish

open Json (Codec RecordShape)

namespace Point

/-- The coordinates of a point as far as they have been read. -/
structure Draft where
  x : Option Int32 := none
  y : Option Int32 := none

/-- A point is a record of its two coordinates. -/
def shape : RecordShape Draft Point where
  name := "Point"
  fields :=
    [Codec.coordinate.field "x" false Draft.x fun x d => { d with x },
      Codec.coordinate.field "y" false Draft.y fun y d => { d with y }]
  blank := {}
  build d := do
    let x ← d.x
    let y ← d.y
    some ⟨x, y⟩

/-- Points as texts. -/
def codec : Codec Point where
  encode p := .record [("x", Codec.coordinate.encode p.x), ("y", Codec.coordinate.encode p.y)]
  reader := Json.readRecord shape

end Point

namespace Box

/-- The parts of a box as far as they have been read. -/
structure Draft where
  center : Option Point := none
  half : Option Point := none

/-- A box is a record of its center and its half-extents. -/
def shape : RecordShape Draft Box where
  name := "Aabb"
  fields :=
    [Point.codec.field "pos" false Draft.center fun center d => { d with center },
      Point.codec.field "hbounds" false Draft.half fun half d => { d with half }]
  blank := {}
  build d := do
    let center ← d.center
    let half ← d.half
    some ⟨center, half⟩

/-- Boxes as texts. -/
def codec : Codec Box where
  encode b := .record [("pos", Point.codec.encode b.center), ("hbounds", Point.codec.encode b.half)]
  reader := Json.readRecord shape

end Box

end Skirmish
