import Mathlib.Data.List.Basic
import Mathlib.Tactic.IntervalCases
import Skirmish.Json.Value

/-!
# Spelled numerals

A numeral is read from the front of a text as far as it goes: where it stops, no character stands
that could continue it.  An integer is spelled by its decimal digits, and what is spelled so stands
for that integer as long as it fits 64 bits, with a sign or without.

## Main definitions

* `Numeral.Spells` — all spellings of a numeral, with either mark of the exponent.
* `Numeral.Stops` — texts that do not continue a numeral.
* `Numeral.FitsWord` — integers that are read as integers.

## Main results

* `Numeral.scan_append` — a numeral is read back from any of its spellings.
* `Numeral.spells_text_ofInt` — integers are spelled by their digits.
* `Numeral.number_ofInt`, `Numeral.number_ofInt_eq_real` — what the digits of an integer stand for.
-/

namespace Skirmish.Json

namespace Numeral

/-! ### Digits -/

theorem isDigit_digitChar {d : Nat} (lt : d < 10) : isDigit (digitChar d) = true := by
  interval_cases d <;> rfl

theorem digitValue_digitChar {d : Nat} (lt : d < 10) : digitValue (digitChar d) = d := by
  interval_cases d <;> rfl

/-- A text that does not start with a digit. -/
def NoDigit (cs : List Char) : Prop := ∀ c ∈ cs.head?, isDigit c = false

/-- Digits in front of something else are read as far as they go. -/
theorem takeDigits_append {ds : List Nat} {rest : List Char} (digits : ∀ d ∈ ds, d < 10)
    (stop : NoDigit rest) :
    frontDigits (ds.map digitChar ++ rest) = ds ∧
      afterDigits (ds.map digitChar ++ rest) = rest := by
  induction ds with
  | nil =>
    cases rest with
    | nil => exact ⟨rfl, rfl⟩
    | cons c cs =>
      have other : ¬ isDigit c = true := Bool.not_eq_true _ ▸ stop c rfl
      rw [List.map_nil, List.nil_append, frontDigits, afterDigits,
        List.takeWhile_cons_of_neg other, List.dropWhile_cons_of_neg other]
      exact ⟨rfl, rfl⟩
  | cons d ds ih =>
    obtain ⟨front, after⟩ := ih fun d' mem => digits d' (List.mem_cons_of_mem d mem)
    have digit := isDigit_digitChar (digits d List.mem_cons_self)
    rw [List.map_cons, List.cons_append, frontDigits, afterDigits,
      List.takeWhile_cons_of_pos digit, List.dropWhile_cons_of_pos digit, List.map_cons,
      digitValue_digitChar (digits d List.mem_cons_self)]
    exact ⟨congrArg (d :: ·) front, after⟩

/-! ### Spellings -/

/-- The spellings of the digits behind the point. -/
inductive FractionSpells : List Nat → List Char → Prop
  | none : FractionSpells [] []
  | some {ds : List Nat} : ds ≠ [] → (∀ d ∈ ds, d < 10) →
    FractionSpells ds ('.' :: ds.map digitChar)

/-- The spellings of the sign of an exponent. -/
inductive ExponentSign : Bool → List Char → Prop
  | minus : ExponentSign true ['-']
  | none : ExponentSign false []
  | plus : ExponentSign false ['+']

/-- The spellings of an exponent. -/
inductive ExponentSpells : Option Exponent → List Char → Prop
  | none : ExponentSpells none []
  | some {e : Exponent} {mark : Char} {sign : List Char} : mark = 'e' ∨ mark = 'E' →
    ExponentSign e.negative sign → e.digits ≠ [] → (∀ d ∈ e.digits, d < 10) →
    ExponentSpells (some e) (mark :: (sign ++ e.digits.map digitChar))

/-- The spellings of a numeral. -/
inductive Spells : Numeral → List Char → Prop
  | mk {n : Numeral} {fraction exponent : List Char} : isWhole n.whole = true →
    (∀ d ∈ n.whole, d < 10) → FractionSpells n.fraction fraction →
    ExponentSpells n.exponent exponent →
    Spells n
      ((if n.negative then ['-'] else []) ++ (n.whole.map digitChar ++ (fraction ++ exponent)))

/-- A text that does not continue a numeral. -/
def Stops (rest : List Char) : Prop :=
  ∀ c ∈ rest.head?, ¬ (isDigit c = true ∨ c = '.' ∨ c = 'e' ∨ c = 'E')

theorem Stops.noDigit {rest : List Char} (h : Stops rest) : NoDigit rest :=
  fun c front => Bool.eq_false_iff.mpr fun digit => h c front (.inl digit)

theorem noDigit_fraction {ds : List Nat} {fraction cs : List Char}
    (h : FractionSpells ds fraction) (stop : NoDigit cs) : NoDigit (fraction ++ cs) := by
  cases h with
  | none => exact stop
  | some =>
    rintro c ⟨⟩
    rfl

theorem noDigit_exponent {e : Option Exponent} {exponent rest : List Char}
    (h : ExponentSpells e exponent) (stop : Stops rest) : NoDigit (exponent ++ rest) := by
  cases h with
  | none => exact stop.noDigit
  | some mark =>
    rintro c ⟨⟩
    rcases mark with rfl | rfl <;> rfl

/-! ### Scanning -/

theorem scanSign_append {negative : Bool} {d : Nat} {cs : List Char} (digit : d < 10) :
    scanSign ((if negative then ['-'] else []) ++ digitChar d :: cs)
      = (negative, digitChar d :: cs) := by
  cases negative with
  | true => rfl
  | false => interval_cases d <;> rfl

theorem scanFraction_append {ds : List Nat} {fraction : List Char} {e : Option Exponent}
    {exponent rest : List Char} (h : FractionSpells ds fraction) (he : ExponentSpells e exponent)
    (stop : Stops rest) :
    scanFraction (fraction ++ (exponent ++ rest)) = some (ds, exponent ++ rest) := by
  cases h with
  | none =>
    have other : ∀ c ∈ (exponent ++ rest).head?, c ≠ '.' := by
      cases he with
      | none =>
        rintro c front rfl
        exact stop '.' front (.inr (.inl rfl))
      | some mark =>
        rintro c ⟨⟩ rfl
        rcases mark with ⟨⟨⟩⟩ | ⟨⟨⟩⟩
    rw [List.nil_append]
    unfold scanFraction
    split
    case h_1 cs eq => exact absurd rfl (other '.' (by rw [eq]; rfl))
    case h_2 => rfl
  | some some digits =>
    obtain ⟨front, after⟩ := takeDigits_append digits (noDigit_exponent he stop)
    rw [List.cons_append, scanFraction, front, after, if_neg some]

theorem scanExponentSign_append {negative : Bool} {sign : List Char} {d : Nat} {cs : List Char}
    (h : ExponentSign negative sign) (digit : d < 10) :
    scanExponentSign (sign ++ digitChar d :: cs) = (negative, digitChar d :: cs) := by
  cases h with
  | minus => rfl
  | plus => rfl
  | none => interval_cases d <;> rfl

theorem scanExponent_append {e : Option Exponent} {exponent rest : List Char}
    (h : ExponentSpells e exponent) (stop : Stops rest) :
    scanExponent (exponent ++ rest) = some (e, rest) := by
  cases h with
  | none =>
    cases rest with
    | nil => rfl
    | cons c cs =>
      have other : ¬ (c = 'e' ∨ c = 'E') := fun mark => stop c rfl (.inr (.inr mark))
      rw [List.nil_append, scanExponent, if_neg other]
  | @some e mark sign isMark hsign some digits =>
    obtain ⟨d, ds, eq⟩ := List.exists_cons_of_ne_nil some
    have first : d < 10 := digits d (eq ▸ List.mem_cons_self)
    obtain ⟨front, after⟩ := takeDigits_append digits stop.noDigit
    have sign : scanExponentSign (sign ++ (e.digits.map digitChar ++ rest))
        = (e.negative, e.digits.map digitChar ++ rest) := by
      rw [eq, List.map_cons, List.cons_append, scanExponentSign_append hsign first]
    rw [List.cons_append, List.append_assoc, scanExponent, if_pos isMark, sign]
    dsimp only
    rw [front, after, if_neg some]

/-- A numeral is read back from the front of a text, however it is spelled. -/
theorem scan_append {n : Numeral} {cs rest : List Char} (h : Spells n cs) (stop : Stops rest) :
    scan (cs ++ rest) = some (n, rest) := by
  obtain ⟨whole, digits, fraction, exponent⟩ := h
  rename_i fractionText exponentText
  obtain ⟨d, ds, eq⟩ : ∃ d ds, n.whole = d :: ds := by
    cases first : n.whole with
    | nil =>
      rw [first] at whole
      cases whole
    | cons d ds => exact ⟨d, ds, rfl⟩
  have first : d < 10 := digits d (eq ▸ List.mem_cons_self)
  obtain ⟨front, after⟩ := takeDigits_append digits
    (noDigit_fraction fraction (noDigit_exponent exponent stop))
  have sign : scanSign ((if n.negative then ['-'] else [])
      ++ (n.whole.map digitChar ++ (fractionText ++ (exponentText ++ rest))))
      = (n.negative, n.whole.map digitChar ++ (fractionText ++ (exponentText ++ rest))) := by
    rw [eq, List.map_cons, List.cons_append, scanSign_append first]
  simp only [List.append_assoc]
  rw [scan, sign]
  dsimp only
  simp only [front, after, if_pos whole, scanFraction_append fraction exponent stop,
    scanExponent_append exponent stop, Option.bind_eq_bind, Option.bind_some]

/-! ### Integers -/

theorem digitValue_natDigitChar {d : Nat} (lt : d < 10) : digitValue d.digitChar = d := by
  interval_cases d <;> rfl

theorem digitsOf_eq (n : Nat) :
    digitsOf n = if n < 10 then [n] else digitsOf (n / 10) ++ [n % 10] := by
  rw [digitsOf, Nat.toDigits_eq_if (by decide)]
  split
  case isTrue lt => rw [List.map_singleton, digitValue_natDigitChar lt]
  case isFalse =>
    rw [List.map_append, List.map_singleton,
      digitValue_natDigitChar (Nat.mod_lt n (by decide)), digitsOf]

theorem lt_ten_of_mem_digitsOf {n d : Nat} (mem : d ∈ digitsOf n) : d < 10 := by
  induction n using Nat.strongRecOn with
  | ind n ih =>
    rw [digitsOf_eq] at mem
    split at mem
    case isTrue lt => exact List.mem_singleton.mp mem ▸ lt
    case isFalse ge =>
      rcases List.mem_append.mp mem with mem | mem
      · exact ih (n / 10) (by omega) mem
      · exact List.mem_singleton.mp mem ▸ Nat.mod_lt n (by decide)

/-- The digits of an integer spell it. -/
theorem ofDigits_digitsOf (n : Nat) : ofDigits (digitsOf n) = n := by
  induction n using Nat.strongRecOn with
  | ind n ih =>
    rw [digitsOf_eq]
    split
    case isTrue => exact Nat.zero_add n
    case isFalse ge =>
      have rest := ih (n / 10) (by omega)
      rw [ofDigits] at rest ⊢
      rw [List.foldl_append, rest, List.foldl_cons, List.foldl_nil]
      omega

theorem exists_digitsOf_eq_cons {n : Nat} (pos : 0 < n) : ∃ d ds, digitsOf n = d :: ds ∧ d ≠ 0 := by
  induction n using Nat.strongRecOn with
  | ind n ih =>
    rw [digitsOf_eq]
    split
    case isTrue => exact ⟨n, [], rfl, by omega⟩
    case isFalse ge =>
      obtain ⟨d, ds, eq, ne⟩ := ih (n / 10) (by omega) (by omega)
      exact ⟨d, ds ++ [n % 10], by rw [eq, List.cons_append], ne⟩

/-- No zero stands in front of the digits of an integer. -/
theorem isWhole_digitsOf (n : Nat) : isWhole (digitsOf n) = true := by
  rcases Nat.eq_zero_or_pos n with rfl | pos
  · rfl
  · obtain ⟨d, ds, eq, ne⟩ := exists_digitsOf_eq_cons pos
    rw [eq]
    cases ds with
    | nil => rfl
    | cons d' ds => exact bne_iff_ne.mpr ne

/-- An integer is spelled by its sign and its digits. -/
theorem spells_text_ofInt (n : Int) : Spells (ofInt n) (ofInt n).text := by
  have eq : (ofInt n).text = (if (ofInt n).negative then ['-'] else [])
      ++ ((ofInt n).whole.map digitChar ++ ([] ++ [])) := by
    simp only [text, ofInt, List.append_nil]
  rw [eq]
  exact .mk (isWhole_digitsOf _) (fun _ => lt_ten_of_mem_digitsOf) .none .none

/-! ### What numerals stand for -/

theorem le_foldl_digits (ds : List Nat) (n : Nat) :
    n ≤ ds.foldl (fun n d => n * 10 + d) n := by
  induction ds generalizing n with
  | nil => exact Nat.le_refl n
  | cons d ds ih =>
    have rest := ih (n * 10 + d)
    rw [List.foldl_cons]
    omega

/-- Digits are read to their end as long as the number fits. -/
theorem absorb_of_lt {ds : List Nat} {n : Nat}
    (fits : ds.foldl (fun n d => n * 10 + d) n < UInt64.size) :
    absorb ds n = (ds.foldl (fun n d => n * 10 + d) n, []) := by
  induction ds generalizing n with
  | nil => rfl
  | cons d ds ih =>
    rw [List.foldl_cons] at fits ⊢
    have now := Nat.lt_of_le_of_lt (le_foldl_digits ds (n * 10 + d)) fits
    rw [absorb, if_pos now, ih fits]

theorem absorb_of_ge {ds : List Nat} {n : Nat} (small : n < UInt64.size)
    (large : UInt64.size ≤ ds.foldl (fun n d => n * 10 + d) n) : (absorb ds n).2 ≠ [] := by
  induction ds generalizing n with
  | nil => exact absurd small (Nat.not_lt.mpr large)
  | cons d ds ih =>
    rw [absorb]
    split
    case isTrue now => exact ih now large
    case isFalse => exact List.cons_ne_nil d ds

/-- The integers that fit 64 bits, with a sign or without. -/
def FitsWord (n : Int) : Prop := -9223372036854775808 ≤ n ∧ n < 18446744073709551616

theorem foldl_digitsOf (n : Nat) : (digitsOf n).foldl (fun n d => n * 10 + d) 0 = n :=
  ofDigits_digitsOf n

theorem absorb_digitsOf {n : Nat} (fits : n < UInt64.size) : absorb (digitsOf n) 0 = (n, []) := by
  rw [absorb_of_lt ((foldl_digitsOf n).trans_lt fits), foldl_digitsOf]

/-- The digits of an integer stand for it if it fits 64 bits. -/
theorem number_ofInt {n : Int} (fits : FitsWord n) :
    (ofInt n).number = some (Number.integer n) := by
  obtain ⟨low, high⟩ := fits
  have size : UInt64.size = 18446744073709551616 := rfl
  have read : absorb (digitsOf n.natAbs) 0 = (n.natAbs, []) := absorb_digitsOf (by omega)
  rw [number]
  simp only [ofInt, read, and_self, if_true, decide_eq_true_eq]
  split
  case isTrue negative =>
    have magnitude : -(n.natAbs : Int) = n := by omega
    rw [if_pos (by omega), magnitude]
  case isFalse =>
    have magnitude : (n.natAbs : Int) = n := by omega
    rw [magnitude]

/-- The digits of any other integer stand for a double, if for anything. -/
theorem number_ofInt_eq_real {n : Int} (large : ¬ FitsWord n) :
    (ofInt n).number = (ofInt n).real := by
  have size : UInt64.size = 18446744073709551616 := rfl
  rw [number]
  by_cases fits : n.natAbs < UInt64.size
  · -- the magnitude fits, so the sign does not
    have negative : n < 0 ∧ 9223372036854775808 < n.natAbs := by
      unfold FitsWord at large
      omega
    have read : absorb (ofInt n).whole 0 = (n.natAbs, []) := absorb_digitsOf fits
    have sign : (ofInt n).negative = true := decide_eq_true negative.1
    rw [read]
    dsimp only
    rw [if_pos ⟨rfl, rfl, rfl⟩, if_pos sign, if_neg (by omega)]
  · have dropped : (absorb (ofInt n).whole 0).2 ≠ [] :=
      absorb_of_ge (by decide) ((Nat.not_lt.mp fits).trans_eq (foldl_digitsOf _).symm)
    exact if_neg fun plain => dropped plain.2.2

end Numeral

end Skirmish.Json
