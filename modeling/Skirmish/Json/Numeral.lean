/-!
# Numerals

The spelling of a number in a text, and the number that it stands for.  A numeral without fraction
and exponent is an integer if it fits 64 bits, and every other numeral is a double.

## Main definitions

* `Json.Numeral` — the parts of a spelling.
* `Json.Numeral.scan` — the numeral at the front of a text, and what follows it.
* `Json.Numeral.number` — what a numeral stands for; nothing if it is beyond the finite doubles.
-/

namespace Skirmish.Json

/-- The exponent of a numeral. -/
structure Exponent where
  negative : Bool
  digits : List Nat
  deriving DecidableEq, Repr

/-- The spelling of a number; a numeral without a point has no fraction digits. -/
structure Numeral where
  negative : Bool
  whole : List Nat
  fraction : List Nat
  exponent : Option Exponent
  deriving DecidableEq, Repr

/-- The number that a numeral stands for. -/
inductive Number where
  | integer (n : Int)
  | real (x : Float)

namespace Numeral

/-! ### Scanning -/

/-- Whether a character is a decimal digit. -/
def isDigit (c : Char) : Bool := '0' ≤ c && c ≤ '9'

/-- The value of a decimal digit. -/
def digitValue (c : Char) : Nat := c.toNat - '0'.toNat

/-- The digits at the front of a text. -/
def frontDigits (cs : List Char) : List Nat := (cs.takeWhile isDigit).map digitValue

/-- What follows the digits at the front of a text. -/
def afterDigits (cs : List Char) : List Char := cs.dropWhile isDigit

/-- The sign at the front of a text: whether it is a minus, and what follows it. -/
def scanSign : List Char → Bool × List Char
  | '-' :: rest => (true, rest)
  | cs => (false, cs)

/-- The fraction at the front of a text; a point without digits is none. -/
def scanFraction : List Char → Option (List Nat × List Char)
  | '.' :: rest =>
    if frontDigits rest = [] then none else some (frontDigits rest, afterDigits rest)
  | cs => some ([], cs)

/-- The sign of an exponent and what follows it; a plus may be written. -/
def scanExponentSign : List Char → Bool × List Char
  | '+' :: rest => (false, rest)
  | cs => scanSign cs

/-- The exponent at the front of a text; an exponent mark without digits is none. -/
def scanExponent : List Char → Option (Option Exponent × List Char)
  | c :: rest =>
    if c = 'e' ∨ c = 'E' then
      let sign := scanExponentSign rest
      if frontDigits sign.2 = [] then none
      else some (some ⟨sign.1, frontDigits sign.2⟩, afterDigits sign.2)
    else some (none, c :: rest)
  | [] => some (none, [])

/-- Whether the digits before the point are spelled well: at least one, and no zero in front of
others. -/
def isWhole : List Nat → Bool
  | [] => false
  | [_] => true
  | d :: _ => d != 0

/-- The numeral at the front of a text, and what follows it. -/
def scan (cs : List Char) : Option (Numeral × List Char) :=
  let sign := scanSign cs
  let whole := frontDigits sign.2
  if isWhole whole then do
    let (fraction, cs) ← scanFraction (afterDigits sign.2)
    let (exponent, cs) ← scanExponent cs
    some (⟨sign.1, whole, fraction, exponent⟩, cs)
  else none

theorem length_afterDigits_le (cs : List Char) : (afterDigits cs).length ≤ cs.length :=
  (List.dropWhile_sublist isDigit).length_le

theorem length_afterDigits_lt {cs : List Char} (h : isWhole (frontDigits cs)) :
    (afterDigits cs).length < cs.length := by
  match cs with
  | [] => simp [frontDigits, isWhole] at h
  | c :: rest =>
    by_cases hc : isDigit c
    · have := length_afterDigits_le rest
      simp only [afterDigits, List.dropWhile_cons_of_pos hc, List.length_cons] at this ⊢
      omega
    · simp [frontDigits, List.takeWhile_cons_of_neg hc, isWhole] at h

theorem length_scanSign_le (cs : List Char) : (scanSign cs).2.length ≤ cs.length := by
  unfold scanSign
  split <;> simp

theorem length_scanFraction_le {cs rest : List Char} {ds : List Nat}
    (h : scanFraction cs = some (ds, rest)) : rest.length ≤ cs.length := by
  unfold scanFraction at h
  split at h
  · next r =>
    split at h
    · simp at h
    · have := length_afterDigits_le r
      simp only [Option.some.injEq, Prod.mk.injEq] at h
      simp only [List.length_cons, ← h.2]
      omega
  · simp only [Option.some.injEq, Prod.mk.injEq] at h
    simp [h.2]

theorem length_scanExponentSign_le (cs : List Char) :
    (scanExponentSign cs).2.length ≤ cs.length := by
  unfold scanExponentSign
  split
  · simp
  · exact length_scanSign_le _

theorem length_scanExponent_le {cs rest : List Char} {e : Option Exponent}
    (h : scanExponent cs = some (e, rest)) : rest.length ≤ cs.length := by
  unfold scanExponent at h
  split at h
  · next c r =>
    split at h
    · have sign := length_scanExponentSign_le r
      have digits := length_afterDigits_le (scanExponentSign r).2
      simp only at h
      split at h
      · simp at h
      · simp only [Option.some.injEq, Prod.mk.injEq] at h
        simp only [List.length_cons, ← h.2]
        omega
    · simp only [Option.some.injEq, Prod.mk.injEq] at h
      simp [← h.2]
  · simp only [Option.some.injEq, Prod.mk.injEq] at h
    simp [← h.2]

/-- Scanning a numeral takes at least one character. -/
theorem length_scan_lt {cs rest : List Char} {n : Numeral} (h : scan cs = some (n, rest)) :
    rest.length < cs.length := by
  have sign := length_scanSign_le cs
  unfold scan at h
  simp only at h
  split at h
  · next hw =>
    have whole := length_afterDigits_lt hw
    simp only [Option.bind_eq_bind, Option.bind_eq_some_iff] at h
    obtain ⟨⟨fraction, r⟩, hf, ⟨exponent, r'⟩, he, h⟩ := h
    have front := length_scanFraction_le hf
    have back := length_scanExponent_le he
    simp only [Option.some.injEq, Prod.mk.injEq] at h
    simp only at front back
    rw [← h.2]
    omega
  · simp at h

/-! ### Value -/

/-- Digits read after a number as long as it fits 64 bits, and the digits that do not fit any
more. -/
def absorb : List Nat → Nat → Nat × List Nat
  | [], n => (n, [])
  | d :: ds, n => if n * 10 + d < UInt64.size then absorb ds (n * 10 + d) else (n, d :: ds)

/-- The number that digits spell. -/
def ofDigits (ds : List Nat) : Nat := ds.foldl (fun n d => n * 10 + d) 0

/-- The largest power of ten that a double is scaled by in one step. -/
def maxPower : Nat := 308

/-- A power of ten as the nearest double. -/
def powerOfTen (k : Nat) : Float := Float.ofScientific 1 false k

/-- A number divided by `10 ^ k`, in steps of the largest power. -/
def shrink (k : Nat) (x : Float) : Float :=
  if k ≤ maxPower then x / powerOfTen k
  else if x == 0 then x
  else shrink (k - maxPower) (x / powerOfTen maxPower)
termination_by k
decreasing_by
  simp only [maxPower] at *
  omega

/-- A number times `10 ^ e`; nothing if that is beyond the finite doubles. -/
def scale (x : Float) : Int → Option Float
  | .ofNat k =>
    if k ≤ maxPower then
      let y := x * powerOfTen k
      if y.isInf then none else some y
    else if x == 0 then some x
    else none
  | .negSucc k => some (shrink (k + 1) x)

/-- The exponent as an integer. -/
def Exponent.value (e : Exponent) : Int :=
  if e.negative then -(ofDigits e.digits : Int) else ofDigits e.digits

/-- The magnitude as a double: the leading digits that fit 64 bits, scaled by a power of ten for the
digits that were dropped and for the exponent. -/
def realMagnitude (n : Numeral) : Option Float :=
  let (significand, dropped) := absorb n.whole 0
  let (significand, unread) := absorb n.fraction significand
  let read := n.fraction.length - unread.length
  let exponent := (n.exponent.map Exponent.value).getD 0
  scale significand.toUInt64.toFloat (dropped.length - read + exponent)

/-- The number as a double. -/
def real (n : Numeral) : Option Number :=
  n.realMagnitude.map fun x => .real (if n.negative then -x else x)

/-- What a numeral stands for.  A minus makes a double of zero, and of what does not fit a signed
word. -/
def number (n : Numeral) : Option Number :=
  let (magnitude, dropped) := absorb n.whole 0
  if n.fraction = [] ∧ n.exponent = none ∧ dropped = [] then
    if n.negative then
      if 0 < magnitude ∧ magnitude ≤ UInt64.size / 2 then some (.integer (-(magnitude : Int))) else n.real
    else some (.integer magnitude)
  else n.real

end Numeral

end Skirmish.Json
