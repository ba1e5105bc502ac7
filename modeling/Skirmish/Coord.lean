import Skirmish.Fault

/-!
# Coordinates

World positions are 32-bit integers.  Two ways of computing with them are used side by side: the
saturating operations stop at the ends of the range, and the checked operations fail with the
`Fault` of their kind.  Both are the exact operation on integers followed by a rule for results
outside the range, and the lemmas say so.

## Main definitions

* `Coord.InRange` — the integers that are coordinates.
* `Coord.saturate` — the coordinate nearest to an integer; `addSat`, `subSat` and `doubleSat` are
  the exact results saturated.
* `Coord.check` — an integer as a coordinate, or a fault; `add`, `sub` and `mul` are the exact
  results checked.
-/

namespace Skirmish

namespace Coord

/-- The least coordinate, as an integer. -/
abbrev least : Int := -2147483648

/-- The greatest coordinate, as an integer. -/
abbrev greatest : Int := 2147483647

/-- The integers that are coordinates. -/
def InRange (n : Int) : Prop :=
  least ≤ n ∧ n ≤ greatest

instance (n : Int) : Decidable (InRange n) :=
  inferInstanceAs (Decidable (_ ∧ _))

theorem inRange_toInt (a : Int32) : InRange a.toInt :=
  ⟨a.le_toInt, Int.le_of_lt_add_one a.toInt_lt⟩

theorem toInt_ofInt {n : Int} (h : InRange n) : (Int32.ofInt n).toInt = n :=
  Int32.toInt_ofInt_of_le h.1 (Int.lt_add_one_of_le h.2)

/-! ### Saturating operations -/

/-- The coordinate nearest to an integer. -/
@[irreducible] def saturate (n : Int) : Int32 :=
  Int32.ofInt (max least (min n greatest))

theorem toInt_saturate (n : Int) : (saturate n).toInt = max least (min n greatest) := by
  unfold saturate
  exact toInt_ofInt ⟨by unfold least greatest; omega, by unfold least greatest; omega⟩

/-- The sum, stopped at the ends of the range. -/
def addSat (a b : Int32) : Int32 :=
  saturate (a.toInt + b.toInt)

/-- The difference, stopped at the ends of the range. -/
def subSat (a b : Int32) : Int32 :=
  saturate (a.toInt - b.toInt)

/-- Twice a coordinate, stopped at the ends of the range. -/
def doubleSat (a : Int32) : Int32 :=
  saturate (2 * a.toInt)

/-! ### Checked operations -/

/-- An integer as a coordinate; outside the range it is the given fault. -/
def check (fault : Fault) (n : Int) : Except Fault Int32 :=
  if InRange n then .ok (Int32.ofInt n) else .error fault

theorem check_of_inRange (fault : Fault) {n : Int} (h : InRange n) :
    check fault n = .ok (Int32.ofInt n) :=
  if_pos h

theorem check_eq_ok_iff {fault : Fault} {n : Int} {a : Int32} :
    check fault n = .ok a ↔ a.toInt = n := by
  unfold check
  split
  case isTrue h =>
    rw [Except.ok.injEq]
    refine ⟨fun e => e ▸ toInt_ofInt h, fun e => ?_⟩
    rw [← e, Int32.ofInt_toInt]
  case isFalse h =>
    refine ⟨nofun, fun e => absurd (inRange_toInt a) ?_⟩
    rwa [e]

/-- The sum, or the fault of addition. -/
def add (a b : Int32) : Except Fault Int32 :=
  check .addition (a.toInt + b.toInt)

/-- The difference, or the fault of subtraction. -/
def sub (a b : Int32) : Except Fault Int32 :=
  check .subtraction (a.toInt - b.toInt)

/-- The product, or the fault of multiplication. -/
def mul (a b : Int32) : Except Fault Int32 :=
  check .multiplication (a.toInt * b.toInt)

/-- The square, or the fault of multiplication. -/
def square (a : Int32) : Except Fault Int32 :=
  mul a a

end Coord

end Skirmish
