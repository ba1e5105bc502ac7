/-!
# Shortest decimals

The decimal with the fewest digits that reads back as a given double, and of those with the fewest
digits the nearest one.  A finite double is `m · 2 ^ q`, and the reals that round to it form an
interval around it; everything is computed on naturals, over a common denominator.

## Main definitions

* `Decimal` — a digit string and the place of its first digit.
* `Binary` — a positive double as `m · 2 ^ q`.
* `Binary.shortest` — its shortest decimal.
* `RealFormat`, `RealFormat.write` — the layout of a number.
-/

namespace Skirmish

/-- A positive decimal: its digits as a number, and the power of ten of its last digit. -/
structure Decimal where
  digits : Nat
  power : Int
  deriving DecidableEq, Repr

/-- A positive double. -/
structure Binary where
  mantissa : Nat
  exponent : Int
  /-- The doubles below are twice as dense as those above. -/
  isBoundary : Bool
  deriving DecidableEq, Repr

namespace Binary

/-- The magnitude of a finite double that is not zero. -/
def ofFloat (x : Float) : Binary :=
  let bits := x.toBits.toNat
  let exponent : Nat := bits / 0x10000000000000 % 0x800
  let fraction : Nat := bits % 0x10000000000000
  if exponent = 0 then ⟨fraction, -1074, false⟩
  else ⟨fraction + 0x10000000000000, (exponent : Int) - 1075, fraction = 0 && 1 < exponent⟩

/-- The factor of the numerator, in quarters of a unit in the last place. -/
def unit (b : Binary) : Nat := 1 <<< b.exponent.toNat

/-- The common denominator, in quarters of a unit in the last place. -/
def denominator (b : Binary) : Nat := 4 <<< (-b.exponent).toNat

/-- The value times the denominator. -/
def value (b : Binary) : Nat := 4 * b.mantissa * b.unit

/-- The lower end of the interval that rounds to the value, times the denominator. -/
def lower (b : Binary) : Nat := b.value - (if b.isBoundary then b.unit else 2 * b.unit)

/-- The upper end of the interval that rounds to the value, times the denominator. -/
def upper (b : Binary) : Nat := b.value + 2 * b.unit

/-- The factors that bring `k · 10 ^ power` and a numerator to the same scale. -/
def scales (b : Binary) (power : Int) : Nat × Nat :=
  (Nat.pow 10 power.toNat * b.denominator, Nat.pow 10 (-power).toNat)

/-- Whether `k · 10 ^ power` rounds to the value; the ends do when the mantissa is even. -/
def reads (b : Binary) (power : Int) (k : Nat) : Bool :=
  let (up, down) := b.scales power
  let x := k * up
  if b.mantissa % 2 = 0 then b.lower * down ≤ x && x ≤ b.upper * down
  else b.lower * down < x && x < b.upper * down

/-- The better one of the two neighbours of the value on the grid of a power of ten: one that
reads back, the nearer one if both do, and of two equally near ones the even one. -/
def onGrid (b : Binary) (power : Int) : Option Nat :=
  let (up, down) := b.scales power
  let x := b.value * down
  let below := x / up
  match b.reads power below, b.reads power (below + 1) with
  | false, false => none
  | true, false => some below
  | false, true => some (below + 1)
  | true, true =>
    -- twice the distance to the lower neighbour against one step of the grid
    let rest := x % up
    if 2 * rest < up ∨ (2 * rest = up ∧ below % 2 = 0) then some below else some (below + 1)

/-- The power of ten of the first digit of a quotient. -/
def leadingPower (n d : Nat) : Int :=
  if d ≤ n then ((Nat.toDigits 10 (n / d)).length : Int) - 1
  else
    let k := (Nat.toDigits 10 (d / n)).length - 1
    if d ≤ n * Nat.pow 10 k then -(k : Int) else -(k + 1 : Int)

/-- The nearest neighbour that reads back on the first grid that has one, from the grid of a power
of ten on toward finer ones; on the last grid the neighbour below is taken in any case. -/
def search (b : Binary) : (tries : Nat) → (power : Int) → Decimal
  | 0, power => ⟨b.value * (b.scales power).2 / (b.scales power).1, power⟩
  | tries + 1, power =>
    match b.onGrid power with
    | some k => ⟨k, power⟩
    | none => search b tries (power - 1)

/-- The shortest decimal that reads back as a double.  The first grid is one power above the first
digit, where a value just below a power of ten may be rounded up to it; seventeen digits always
suffice. -/
def shortest (b : Binary) : Decimal :=
  search b 18 (leadingPower b.value b.denominator + 1)

end Binary

/-- The layout of a number. -/
structure RealFormat where
  /-- The first digit of a number written without an exponent stands at this power of ten or
  above. -/
  leastPositional : Int
  /-- And at this power of ten or below. -/
  greatestPositional : Int

namespace RealFormat

/-- Digits without an exponent, with at least one digit on each side of the point. -/
def positional (ds : List Char) (leading : Int) : List Char :=
  if leading < 0 then
    ['0', '.'] ++ List.replicate (-leading - 1).toNat '0' ++ ds
  else
    let whole := leading.toNat + 1
    let front := ds.take whole ++ List.replicate (whole - ds.length) '0'
    let back := ds.drop whole
    front ++ ['.'] ++ (if back = [] then ['0'] else back)

/-- Digits with an exponent, which always has a sign. -/
def scientific (ds : List Char) (leading : Int) : List Char :=
  let fraction := match ds.drop 1 with
    | [] => []
    | rest => '.' :: rest
  ds.take 1 ++ fraction ++ ['e', if leading < 0 then '-' else '+']
    ++ Nat.toDigits 10 leading.natAbs

/-- A positive decimal in a layout. -/
def writeDecimal (f : RealFormat) (d : Decimal) : List Char :=
  let ds := Nat.toDigits 10 d.digits
  let leading := d.power + (ds.length - 1 : Nat)
  if f.leastPositional ≤ leading ∧ leading ≤ f.greatestPositional then positional ds leading
  else scientific ds leading

/-- A finite double in a layout, by its shortest decimal. -/
def write (f : RealFormat) (x : Float) : String :=
  let sign := if 0x8000000000000000 ≤ x.toBits.toNat then ['-'] else []
  let magnitude := if x == 0 then ['0', '.', '0'] else f.writeDecimal (Binary.ofFloat x).shortest
  String.ofList (sign ++ magnitude)

end RealFormat

end Skirmish
