import Skirmish.Proofs.Single.Packing

/-!
# Rounding to single precision

A result is rounded by shifting its mantissa to the right, with two bits that remember what has been
shifted out.  The rounded mantissa lies between the mantissa and its ceiling, and shifting divides
both.  Hence rounding never passes a power of two, and it changes nothing that is a single-precision
number already.

## Main definitions

* `Single.ceiling`, `Single.slack` — how far a mantissa is rounded at most.
* `Single.Signed` — the numbers of a sign, up to a power of two.

## Main results

* `signed_roundWithAccuracy`, `signed_round` — what lies within a power of two is rounded within it.
* `roundWithAccuracy_of_regular` — a single-precision number is rounded to itself.
-/

namespace Skirmish

open Float.Model (Format UnpackedFloat totalExponent)
open Float.Model.UnpackedFloat

namespace Single

/-! ### Mantissas with two more bits -/

/-- The mantissa rounded upward. -/
def ceiling (em : ExtendedMantissa) : ℕ :=
  em.mantissa + (em.roundBit || em.stickyBit).toNat

/-- Whether an approximation falls short. -/
def slack : Accuracy → ℕ
  | .exact => 0
  | .inexact _ => 1

theorem mantissa_ofMantissaAndAccuracy (m : ℕ) (acc : Accuracy) :
    (ExtendedMantissa.ofMantissaAndAccuracy m acc).mantissa = m := by
  cases acc with
  | exact => rfl
  | inexact order => cases order <;> rfl

theorem ceiling_ofMantissaAndAccuracy (m : ℕ) (acc : Accuracy) :
    ceiling (.ofMantissaAndAccuracy m acc) = m + slack acc := by
  cases acc with
  | exact => rfl
  | inexact order => cases order <;> rfl

theorem slack_le (acc : Accuracy) : slack acc ≤ 1 := by
  cases acc with
  | exact => exact Nat.zero_le 1
  | inexact order => exact le_rfl

theorem mantissa_le_roundedMantissa (em : ExtendedMantissa) :
    em.mantissa ≤ em.roundedMantissa := by
  obtain ⟨m, _ | _, _ | _⟩ := em
  · exact le_rfl
  · exact le_rfl
  · exact Nat.le_add_right m (m % 2)
  · exact Nat.le_succ m

theorem roundedMantissa_le_ceiling (em : ExtendedMantissa) :
    em.roundedMantissa ≤ ceiling em := by
  obtain ⟨m, _ | _, _ | _⟩ := em
  · exact le_rfl
  · exact Nat.le_succ m
  · exact Nat.add_le_add_left (Nat.le_of_lt_succ (Nat.mod_lt m two_pos)) m
  · exact le_rfl

theorem ceiling_shiftRightOne_le {em : ExtendedMantissa} {j : ℕ} :
    ceiling em.shiftRightOne ≤ j ↔ ceiling em ≤ 2 * j := by
  obtain ⟨m, r, s⟩ := em
  rw [ceiling, ceiling, ExtendedMantissa.shiftRightOne]
  obtain even | odd := Nat.mod_two_eq_zero_or_one m
  · cases r <;> cases s <;> simp [even] <;> omega
  · cases r <;> cases s <;> simp [odd] <;> omega

variable (em : ExtendedMantissa) (n j : ℕ)

theorem shiftRight_succ : em >>> (n + 1) = (em >>> n).shiftRightOne := rfl

theorem le_mantissa_shiftRight : j ≤ (em >>> n).mantissa ↔ 2 ^ n * j ≤ em.mantissa := by
  induction n generalizing j with
  | zero => rw [pow_zero, one_mul]; rfl
  | succ n ih =>
    calc j ≤ (em >>> n).mantissa / 2
        ↔ 2 * j ≤ (em >>> n).mantissa := by omega
      _ ↔ 2 ^ (n + 1) * j ≤ em.mantissa := by rw [ih, pow_succ, mul_assoc]

theorem ceiling_shiftRight_le : ceiling (em >>> n) ≤ j ↔ ceiling em ≤ 2 ^ n * j := by
  induction n generalizing j with
  | zero => rw [pow_zero, one_mul]; rfl
  | succ n ih => rw [shiftRight_succ, ceiling_shiftRightOne_le, ih, pow_succ, mul_assoc]

/-! ### Exponents -/

theorem targetExponent_def (total : ℤ) :
    Format.binary32.targetExponent total = Max.max (total - 24) (-149) := rfl

/-- The least exponent with room for the mantissa. -/
theorem targetExponent_eq (m : ℕ) (e : ℤ) :
    Format.binary32.targetExponent (totalExponent m e) = Max.max (m.log2 + e - 23) (-149) := by
  rw [targetExponent_def, totalExponent]
  omega

theorem targetExponent_of_regular {m : ℕ} {e : ℤ} (pos : 0 < m) (h : Regular m e) :
    Format.binary32.targetExponent (totalExponent m e) = e := by
  obtain ⟨bound, least, -, regular⟩ := h
  rw [targetExponent_eq]
  by_cases normal : 2 ^ 23 ≤ m
  case pos =>
    rw [(Nat.log2_eq_iff pos.ne').mpr ⟨normal, bound⟩]
    omega
  case neg =>
    have log : m.log2 < 23 := (Nat.log2_lt pos.ne').mpr (not_le.mp normal)
    rw [regular.resolve_left normal]
    omega

theorem shiftToTargetExponent_of_le {m : ℕ} {e : ℤ} {acc : Accuracy}
    (h : Format.binary32.targetExponent (totalExponent m e) ≤ e) :
    shiftToTargetExponent Format.binary32 m e acc = (.ofMantissaAndAccuracy m acc, e) := by
  rw [shiftToTargetExponent, shiftToExponent, Int.toNat_eq_zero.mpr (Int.sub_nonpos_of_le h)]
  exact Prod.ext rfl (Int.add_zero e)

/-- What is left to do once a mantissa is rounded: it may have grown by one bit. -/
def carried (s : Sign) (r : ℕ) (t : ℤ) : UnpackedFloat :=
  let (em, e) := shiftToTargetExponent Format.binary32 r t .exact
  if h : em.mantissa = 0 then .zero s else .finite s em.mantissa e (Nat.pos_of_ne_zero h)

theorem roundWithAccuracy_eq (s : Sign) (m : ℕ) (e : ℤ) (acc : Accuracy) :
    roundWithAccuracy Format.binary32 s m e acc =
      carried s (shiftToTargetExponent Format.binary32 m e acc).1.roundedMantissa
        (shiftToTargetExponent Format.binary32 m e acc).2 := rfl

theorem carried_of_regular {s : Sign} {m : ℕ} {e : ℤ} (pos : 0 < m) (h : Regular m e) :
    carried s m e = .finite s m e pos := by
  rw [carried, shiftToTargetExponent_of_le (targetExponent_of_regular pos h).le]
  exact dif_neg pos.ne'

theorem carried_zero (s : Sign) {t : ℤ} (least : -149 ≤ t) : carried s 0 t = .zero s := by
  have target : Format.binary32.targetExponent (totalExponent 0 t) ≤ t := by
    rw [targetExponent_eq]
    show Max.max (0 + t - 23) (-149) ≤ t
    omega
  rw [carried, shiftToTargetExponent_of_le target]
  rfl

/-- A mantissa that has grown by one bit is halved. -/
theorem carried_of_carry (s : Sign) {t : ℤ} (least : -149 ≤ t) :
    carried s (2 ^ 24) t = .finite s (2 ^ 23) (t + 1) (by decide) := by
  have target : Format.binary32.targetExponent (totalExponent (2 ^ 24) t) - t = (1 : ℕ) := by
    rw [targetExponent_eq, Nat.log2_two_pow]
    omega
  rw [carried, shiftToTargetExponent, shiftToExponent, target]
  rfl

/-- A single-precision number is rounded to itself. -/
theorem roundWithAccuracy_of_regular {s : Sign} {m : ℕ} {e : ℤ} (pos : 0 < m) (h : Regular m e) :
    roundWithAccuracy Format.binary32 s m e .exact = .finite s m e pos := by
  rw [roundWithAccuracy_eq, shiftToTargetExponent_of_le (targetExponent_of_regular pos h).le]
  exact carried_of_regular pos h

/-! ### Magnitudes -/

/-- A zero, or a finite number, with a sign and a magnitude of at most `2 ^ k`. -/
inductive Signed (s : Sign) (k : ℤ) : UnpackedFloat → Prop
  | zero : Signed s k (.zero s)
  | finite {m : ℕ} {e : ℤ} (pos : 0 < m) (regular : Regular m e) (le : (m : ℚ) * 2 ^ e ≤ 2 ^ k) :
      Signed s k (.finite s m e pos)

/-- The powers of two that are single-precision numbers. -/
def IsExponent (k : ℤ) : Prop := -149 ≤ k ∧ k ≤ 127

variable {s : Sign} {m : ℕ} {e k : ℤ} {acc : Accuracy}

theorem le_two_zpow_iff (pos : 0 < m) :
    (m : ℚ) * 2 ^ e ≤ 2 ^ k ↔ ∃ a : ℕ, e + a = k ∧ m ≤ 2 ^ a := by
  have split (a : ℕ) : (2 : ℚ) ^ (e + a) = 2 ^ a * 2 ^ e := by
    rw [zpow_add₀ two_ne_zero, zpow_natCast, mul_comm]
  have unit : (0 : ℚ) < 2 ^ e := by positivity
  constructor
  · intro h
    have one : (1 : ℚ) ≤ m := by exact_mod_cast pos
    have le : (2 : ℚ) ^ e ≤ 2 ^ k := (le_mul_of_one_le_left unit.le one).trans h
    obtain ⟨a, rfl⟩ := Int.le.dest ((zpow_le_zpow_iff_right₀ one_lt_two).mp le)
    rw [split, mul_le_mul_iff_left₀ unit] at h
    exact ⟨a, rfl, by exact_mod_cast h⟩
  · rintro ⟨a, rfl, h⟩
    rw [split, mul_le_mul_iff_left₀ unit]
    exact_mod_cast h

theorem Signed.canonical {f : UnpackedFloat} (h : Signed s k f) : Canonical f := by
  cases h with
  | zero => exact trivial
  | finite pos regular le => exact regular

/-- The end of rounding stays within a power of two. -/
theorem signed_carried {r : ℕ} {t : ℤ} (bound : r ≤ 2 ^ 24) (least : -149 ≤ t)
    (regular : 2 ^ 23 ≤ r ∨ t = -149) (range : IsExponent k) (le : (r : ℚ) * 2 ^ t ≤ 2 ^ k) :
    Signed s k (carried s r t) := by
  obtain rfl | pos := Nat.eq_zero_or_pos r
  · rw [carried_zero s least]
    exact .zero
  obtain ⟨a, exponent, le_pow⟩ := (le_two_zpow_iff pos).mp le
  have large (normal : 2 ^ 23 ≤ r) : 23 ≤ a :=
    (Nat.pow_le_pow_iff_right one_lt_two).mp (normal.trans le_pow)
  obtain fits | rfl := Nat.lt_or_eq_of_le bound
  · have regular : Regular r t := by
      refine ⟨fits, least, ?_, regular⟩
      obtain normal | subnormal := regular
      · have := large normal
        have := range.2
        omega
      · omega
    rw [carried_of_regular pos regular]
    exact .finite pos regular le
  · have large : 24 ≤ a := (Nat.pow_le_pow_iff_right one_lt_two).mp le_pow
    have range := range.2
    rw [carried_of_carry s least]
    refine .finite _ ⟨by decide, by omega, by omega, .inl le_rfl⟩ ?_
    exact (le_two_zpow_iff (by decide)).mpr
      ⟨a - 1, by omega, Nat.pow_le_pow_right two_pos (by omega)⟩

/-- Rounding after a shift does not pass a bound on what is shifted. -/
theorem roundedMantissa_shiftRight_le {n j : ℕ} (h : m + slack acc ≤ 2 ^ n * j) :
    (ExtendedMantissa.ofMantissaAndAccuracy m acc >>> n).roundedMantissa ≤ j := by
  refine (roundedMantissa_le_ceiling _).trans ((ceiling_shiftRight_le _ n j).mpr ?_)
  rwa [ceiling_ofMantissaAndAccuracy]

theorem le_roundedMantissa_shiftRight {n j : ℕ} (h : 2 ^ n * j ≤ m) :
    j ≤ (ExtendedMantissa.ofMantissaAndAccuracy m acc >>> n).roundedMantissa := by
  refine ((le_mantissa_shiftRight _ n j).mpr ?_).trans (mantissa_le_roundedMantissa _)
  rwa [mantissa_ofMantissaAndAccuracy]

/-- A mantissa that is shifted to its target exponent and rounded has 24 bits, but for a carry. -/
theorem roundedMantissa_fits {n : ℕ} (pos : 0 < m)
    (target : Max.max (m.log2 + e - 23) (-149) = e + n) :
    (ExtendedMantissa.ofMantissaAndAccuracy m acc >>> n).roundedMantissa ≤ 2 ^ 24 ∧
      (2 ^ 23 ≤ (ExtendedMantissa.ofMantissaAndAccuracy m acc >>> n).roundedMantissa ∨
        e + n = -149) := by
  constructor
  · have lt_log : m + slack acc ≤ 2 ^ (m.log2 + 1) :=
      (Nat.add_le_add_left (slack_le acc) m).trans Nat.lt_log2_self
    refine roundedMantissa_shiftRight_le ?_
    rw [← pow_add]
    exact lt_log.trans (Nat.pow_le_pow_right two_pos (by omega))
  · rw [or_iff_not_imp_right]
    intro normal
    refine le_roundedMantissa_shiftRight ?_
    rw [← pow_add, show n + 23 = m.log2 by omega]
    exact Nat.log2_self_le pos.ne'

/-- **What lies within a power of two is rounded within it.** -/
theorem signed_roundWithAccuracy (pos : 0 < m)
    (fits : e ≤ Format.binary32.targetExponent (totalExponent m e)) (range : IsExponent k)
    (le : ((m + slack acc : ℕ) : ℚ) * 2 ^ e ≤ 2 ^ k) :
    Signed s k (roundWithAccuracy Format.binary32 s m e acc) := by
  -- the mantissa is shifted by the `n` places that its exponent is short of the target
  obtain ⟨n, target⟩ := Int.le.dest fits
  have shifted : shiftToTargetExponent Format.binary32 m e acc
      = (ExtendedMantissa.ofMantissaAndAccuracy m acc >>> n, e + n) := by
    rw [shiftToTargetExponent, shiftToExponent, ← target, add_sub_cancel_left]
    rfl
  rw [targetExponent_eq] at target
  obtain ⟨bound, regular⟩ := roundedMantissa_fits pos target.symm
  rw [roundWithAccuracy_eq, shifted]
  refine signed_carried bound (by omega) regular range ?_
  obtain zero | rounded_pos := Nat.eq_zero_or_pos
    (ExtendedMantissa.ofMantissaAndAccuracy m acc >>> n).roundedMantissa
  · rw [zero, Nat.cast_zero, zero_mul]
    positivity
  · -- the power of two is a multiple of the unit after the shift
    obtain ⟨a, exponent, le_pow⟩ := (le_two_zpow_iff (by omega)).mp le
    have log_le : m.log2 ≤ a := by
      rw [← Nat.pow_le_pow_iff_right one_lt_two]
      exact (Nat.log2_self_le pos.ne').trans ((Nat.le_add_right m _).trans le_pow)
    have low := range.1
    refine (le_two_zpow_iff rounded_pos).mpr ⟨a - n, by omega, roundedMantissa_shiftRight_le ?_⟩
    rwa [← pow_add, show n + (a - n) = a by omega]

/-! ### Rounding of any mantissa -/

theorem totalExponent_shiftLeft (pos : 0 < m) (e : ℤ) (n : ℕ) :
    totalExponent (m <<< n) (e - n) = totalExponent m e := by
  have log : (m <<< n).log2 = m.log2 + n := by
    rw [Nat.shiftLeft_eq, Nat.log2_eq_iff (by positivity), Nat.add_right_comm, pow_add, pow_add]
    exact ⟨Nat.mul_le_mul_right _ (Nat.log2_self_le pos.ne'),
      Nat.mul_lt_mul_of_pos_right Nat.lt_log2_self (by positivity)⟩
  rw [totalExponent, totalExponent, log]
  omega

/-- A mantissa with more places has the same value. -/
theorem shiftLeft_value (m : ℕ) (e : ℤ) (n : ℕ) :
    ((m <<< n : ℕ) : ℚ) * 2 ^ (e - n) = m * 2 ^ e := by
  rw [Nat.shiftLeft_eq, Nat.cast_mul, Nat.cast_pow, Nat.cast_ofNat, mul_assoc, ← zpow_natCast,
    ← zpow_add₀ two_ne_zero, add_sub_cancel]

theorem exists_round_eq_roundWithAccuracy (s : Sign) (m : ℕ) (e : ℤ) : ∃ n : ℕ,
    e - n ≤ Format.binary32.targetExponent (totalExponent m e) ∧
    UnpackedFloat.round Format.binary32 s m e
      = roundWithAccuracy Format.binary32 s (m <<< n) (e - n) .exact :=
  ⟨(e - Format.binary32.targetExponent (totalExponent m e)).toNat, by omega, rfl⟩

/-- **Rounding of any mantissa stays within a power of two.** -/
theorem signed_round (pos : 0 < m) (range : IsExponent k) (le : (m : ℚ) * 2 ^ e ≤ 2 ^ k) :
    Signed s k (UnpackedFloat.round Format.binary32 s m e) := by
  obtain ⟨n, fits, round⟩ := exists_round_eq_roundWithAccuracy s m e
  rw [round]
  refine signed_roundWithAccuracy (by rw [Nat.shiftLeft_eq]; positivity) ?_ range ?_
  · rwa [totalExponent_shiftLeft pos]
  · rwa [slack, Nat.add_zero, shiftLeft_value]

/-- A natural number with at most 24 bits is a single-precision number. -/
theorem exists_round_natural (s : Sign) {n : ℕ} (pos : 0 < n) (bound : n < 2 ^ 24) :
    ∃ m e, ∃ pos : 0 < m, UnpackedFloat.round Format.binary32 s n 0 = .finite s m e pos ∧
      Regular m e ∧ (m : ℚ) * 2 ^ e = n := by
  have log_le : 2 ^ n.log2 ≤ n := Nat.log2_self_le pos.ne'
  have lt_log : n < 2 ^ (n.log2 + 1) := Nat.lt_log2_self
  have log : n.log2 < 24 := (Nat.log2_lt pos.ne').mpr bound
  obtain ⟨places, room⟩ : ∃ places, n.log2 + places = 23 := ⟨23 - n.log2, by omega⟩
  have target : (0 - Format.binary32.targetExponent (totalExponent n 0)).toNat = places := by
    rw [targetExponent_eq]
    omega
  have regular : Regular (n <<< places) (0 - places) := by
    rw [Nat.shiftLeft_eq]
    refine ⟨?_, by omega, by omega, .inl ?_⟩
    · calc n * 2 ^ places < 2 ^ (n.log2 + 1) * 2 ^ places :=
            Nat.mul_lt_mul_of_pos_right lt_log (by positivity)
        _ = 2 ^ 24 := by rw [← pow_add, Nat.add_right_comm, room]
    · calc 2 ^ 23 = 2 ^ n.log2 * 2 ^ places := by rw [← pow_add, room]
        _ ≤ n * 2 ^ places := Nat.mul_le_mul_right _ log_le
  have pos : 0 < n <<< places := by
    rw [Nat.shiftLeft_eq]
    positivity
  refine ⟨_, _, pos, ?_, regular, ?_⟩
  · rw [← roundWithAccuracy_of_regular pos regular, UnpackedFloat.round, decreaseExponent, target]
  · rw [shiftLeft_value, zpow_zero, mul_one]

/-! ### Rounding of signed mantissas -/

/-- A finite number with a magnitude of at most `2 ^ k`. -/
def Within (k : ℤ) (f : UnpackedFloat) : Prop := ∃ s, Signed s k f

variable {z : ℤ}

theorem signed_normalize (nonneg : 0 ≤ z) (range : IsExponent k) (le : (z : ℚ) * 2 ^ e ≤ 2 ^ k) :
    Signed .positive k (UnpackedFloat.normalize Format.binary32 z e .positive) := by
  obtain rfl | pos := nonneg.eq_or_lt
  · exact .zero
  · have le : ((z.toNat : ℕ) : ℚ) * 2 ^ e ≤ 2 ^ k := by
      rwa [← Int.cast_natCast, Int.toNat_of_nonneg nonneg]
    rw [UnpackedFloat.normalize, Int.compare_eq_gt.mpr pos]
    exact signed_round (by omega) range le

theorem within_normalize {s : Sign} (range : IsExponent k) (le : |(z : ℚ)| * 2 ^ e ≤ 2 ^ k) :
    Within k (UnpackedFloat.normalize Format.binary32 z e s) := by
  obtain neg | rfl | pos := lt_trichotomy z 0
  · rw [abs_of_neg (Int.cast_lt_zero.mpr neg), ← Int.cast_neg,
      ← Int.toNat_of_nonneg (show 0 ≤ -z by omega), Int.cast_natCast] at le
    rw [UnpackedFloat.normalize, Int.compare_eq_lt.mpr neg]
    exact ⟨_, signed_round (by omega) range le⟩
  · exact ⟨_, .zero⟩
  · rw [abs_of_pos (Int.cast_pos.mpr pos), ← Int.toNat_of_nonneg pos.le, Int.cast_natCast] at le
    rw [UnpackedFloat.normalize, Int.compare_eq_gt.mpr pos]
    exact ⟨_, signed_round (by omega) range le⟩

end Single

end Skirmish
