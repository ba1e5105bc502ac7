import Skirmish.Coord
import Skirmish.Geometry.Point

/-!
# Single-precision positions

Walking is computed in single precision, one rounding for each operation.  This module holds the
passages between coordinates and single-precision numbers and the few vector operations that
walking needs.

A finite number is read as `m · 2 ^ e` with a natural `m`, so that rounding to an integer is exact
arithmetic on naturals.

## Main definitions

* `Single.ofCoord` — a coordinate as the nearest single-precision number.
* `Single.round`, `Single.truncate` — a number as a coordinate: the nearest one, halves away from
  zero, and the one toward zero; both saturate, and take what is not a number to zero.
* `Displacement` — pairs of single-precision numbers.
-/

namespace Skirmish

namespace Single

/-- The integer part of `m · 2 ^ e`. -/
def floorScaled (m : Nat) : Int → Nat
  | .ofNat k => m <<< k
  | .negSucc k => m >>> (k + 1)

/-- The integer nearest to `m · 2 ^ e`, a half going up. -/
def roundScaled (m : Nat) : Int → Nat
  | .ofNat k => m <<< k
  | .negSucc k => (m + 1 <<< k) >>> (k + 1)

/-- The magnitude of a number as `m · 2 ^ e`; an infinity reads as a value beyond the finite ones. -/
def scaled (x : Float32) : Nat × Int :=
  let bits := x.toBits.toNat
  let exponent : Nat := bits / 0x800000 % 0x100
  let fraction : Nat := bits % 0x800000
  if exponent = 0 then (fraction, -149) else (fraction + 0x800000, (exponent : Int) - 150)

/-- Whether the sign bit is set. -/
def isNegative (x : Float32) : Bool :=
  decide (0x80000000 ≤ x.toBits.toNat)

/-- A number as a coordinate, its magnitude being brought to an integer by `rule`. -/
def toCoord (rule : Nat → Int → Nat) (x : Float32) : Int32 :=
  if x.isNaN then 0
  else
    let (m, e) := scaled x
    let magnitude : Int := rule m e
    Coord.saturate (if isNegative x then -magnitude else magnitude)

/-- The nearest coordinate, halves away from zero. -/
def round (x : Float32) : Int32 := toCoord roundScaled x

/-- The coordinate toward zero. -/
def truncate (x : Float32) : Int32 := toCoord floorScaled x

/-- The single-precision number nearest to a coordinate. -/
def ofCoord (n : Int32) : Float32 :=
  let magnitude := n.toInt.natAbs.toUInt64.toFloat32
  if n < 0 then -magnitude else magnitude

/-- The larger of two numbers; an operand that is not a number is passed over. -/
def max (a b : Float32) : Float32 :=
  if a.isNaN then b
  else if b.isNaN then a
  else if a < b then b
  else a

end Single

/-- A pair of single-precision numbers: a position or a displacement. -/
structure Displacement where
  x : Float32
  y : Float32

namespace Displacement

/-- The displacement of length zero. -/
def zero : Displacement := ⟨0, 0⟩

/-- The position nearest to a point. -/
def ofPoint (p : Point) : Displacement := ⟨Single.ofCoord p.x, Single.ofCoord p.y⟩

/-- The point nearest to a position. -/
def toPoint (v : Displacement) : Point := ⟨Single.round v.x, Single.round v.y⟩

/-- The sum, coordinate by coordinate. -/
def add (u v : Displacement) : Displacement := ⟨u.x + v.x, u.y + v.y⟩

/-- The difference, coordinate by coordinate. -/
def sub (u v : Displacement) : Displacement := ⟨u.x - v.x, u.y - v.y⟩

/-- The length, from the sum of the squares. -/
def length (v : Displacement) : Float32 := (v.x * v.x + v.y * v.y).sqrt

/-- The displacement along `v`, whose length is `length`, by `speed`. -/
def rescale (v : Displacement) (length speed : Float32) : Displacement :=
  ⟨v.x / length * speed, v.y / length * speed⟩

/-- Whether a displacement is zero; a coordinate that is not a number is not. -/
def isZero (v : Displacement) : Bool := v.x == 0 && v.y == 0

end Displacement

end Skirmish
