import Skirmish.Map.Basic
import Skirmish.Proofs.Geometry.Corners

/-!
# What the viewport shows

The index is searched with the box over the visible rectangle.  It has every visible point, unless
the viewport is as wide or as tall as the coordinates go: then the last columns or rows are lost.

## Main definitions

* `Viewport.Shows` — the points of the visible rectangle.

## Main results

* `Viewport.span_place` — the span of a viewport that was placed.
* `Viewport.covers_place_iff` — the placed viewports whose box has every visible point.
* `Map.rectangle_ofCorners` — what a box has of its rectangle, and what the viewport loses.
-/

namespace Skirmish

namespace Viewport

/-- A point is visible when it lies between the edges; the upper edges are not visible. -/
def Shows (v : Viewport) (p : Point) : Prop :=
  Box.InRectangle v.left v.bottom v.right v.top p

instance (v : Viewport) (p : Point) : Decidable (v.Shows p) :=
  inferInstanceAs (Decidable (Box.InRectangle _ _ _ _ _))

/-- The edges of an axis that was placed are in order if there is something between them, and they
are the greatest coordinate apart only if the extent is and the axis starts left of the origin. -/
theorem span_place (start extent : Int32) :
    (start < Coord.addSat start extent ↔ 0 < extent ∧ start < Int32.maxValue) ∧
      ((Coord.addSat start extent).toInt - start.toInt < 2147483647 ↔
        extent < Int32.maxValue ∨ 0 < start) := by
  have greatest : Int32.maxValue.toInt = 2147483647 := by decide
  have hs := Coord.inRange_toInt start
  have he := Coord.inRange_toInt extent
  rw [Coord.inRange_iff] at hs he
  simp only [Int32.lt_iff_toInt_lt, Coord.addSat, Coord.toInt_saturate, Int32.toInt_zero, greatest]
  unfold Coord.least Coord.greatest
  omega

/-- The box of a viewport that was placed has every visible point, unless something is visible and
an extent is the greatest coordinate from a start that is not right of or above the origin. -/
theorem covers_place_iff (x y w h : Int32) :
    (∀ p, (place x y w h).Shows p → p ∈ (place x y w h).box) ↔
      (0 < w → 0 < h → x < Int32.maxValue → y < Int32.maxValue →
        (w < Int32.maxValue ∨ 0 < x) ∧ (h < Int32.maxValue ∨ 0 < y)) := by
  have covers := @Box.covers_rectangle_iff x y (Coord.addSat x w) (Coord.addSat y h)
  obtain ⟨wide, narrow⟩ := span_place x w
  obtain ⟨tall, flat⟩ := span_place y h
  rw [wide, tall, narrow, flat] at covers
  -- the same conditions, in another order
  refine covers.trans ⟨fun short hw hh hx hy => short ⟨hw, hx⟩ ⟨hh, hy⟩, ?_⟩
  rintro short ⟨hw, hx⟩ ⟨hh, hy⟩
  exact short hw hh hx hy

end Viewport

namespace Map

/-- The box over a rectangle has nothing beyond the edges, and nothing at all without room between
them; a point of the rectangle belongs to it unless it is 2147483646 or more from a lower edge.  So
the box has the whole rectangle when there is none or both spans are less than the greatest
coordinate.  The box of a viewport has every visible point, unless an extent is the greatest
coordinate. -/
theorem rectangle_ofCorners (m : Map) :
    (∀ left bottom right top p,
      (p ∈ Box.ofCorners left bottom right top →
        (left ≤ p.x ∧ p.x ≤ right) ∧ bottom ≤ p.y ∧ p.y ≤ top) ∧
      (left = right ∨ bottom = top → p ∉ Box.ofCorners left bottom right top) ∧
      (Box.InRectangle left bottom right top p → (p ∈ Box.ofCorners left bottom right top ↔
        p.x.toInt - left.toInt < 2147483646 ∧ p.y.toInt - bottom.toInt < 2147483646))) ∧
    (∀ left bottom right top,
      (∀ p, Box.InRectangle left bottom right top p → p ∈ Box.ofCorners left bottom right top) ↔
        (left < right → bottom < top → right.toInt - left.toInt < 2147483647 ∧
          top.toInt - bottom.toInt < 2147483647)) ∧
    ∀ x y w h,
      (∀ p, (m.reshape x y w h).view.Shows p → p ∈ (m.reshape x y w h).view.box) ↔
        (0 < w → 0 < h → x < Int32.maxValue → y < Int32.maxValue →
          (w < Int32.maxValue ∨ 0 < x) ∧ (h < Int32.maxValue ∨ 0 < y)) :=
  ⟨fun _ _ _ _ _ => ⟨Box.between_of_mem_ofCorners, Box.not_mem_ofCorners_of_eq,
    Box.mem_ofCorners_iff_near⟩, fun _ _ _ _ => Box.covers_rectangle_iff,
    fun x y w h => Viewport.covers_place_iff x y w h⟩

/-- A viewport of the greatest width, from a little left of the origin. -/
def panorama : Map := Map.empty.reshape (-101) 0 2147483647 2

/-- Its last column is visible, and its box has it not: the span is odd, and is narrowed. -/
theorem panorama_loses_column :
    panorama.view.left ≤ panorama.view.right ∧ panorama.view.bottom ≤ panorama.view.top ∧
      panorama.view.Shows ⟨2147483545, 0⟩ ∧ ⟨2147483545, 0⟩ ∉ panorama.view.box ∧
      ⟨2147483545, 0⟩ ∉ Box.ofCorners (-101) 0 2147483546 2 := by
  decide +kernel

end Map

end Skirmish
