import Skirmish.Proofs.Single.Rounding

/-!
# Magnitudes of single-precision results

How large a result is at most, for the operations that a distance is computed with: differences,
squares, sums of squares and square roots.  No error is tracked; since rounding never passes a power
of two, bounds by powers of two go through every operation.

## Main definitions

* `Single.value` — the value of a finite number.

## Main results

* `within_sub`, `signed_square`, `signed_add`, `signed_sqrt` — one operation each.
* `length_le_two` — a short displacement has a small length.
-/

namespace Skirmish

open Float.Model (Format UnpackedFloat totalExponent)
open Float.Model.UnpackedFloat

namespace Single

/-- The value of a finite number. -/
def value : UnpackedFloat → ℚ
  | .finite s m e _ => s.apply m * 2 ^ e
  | _ => 0

variable {f g : UnpackedFloat} {s : Sign} {m : ℕ} {e k : ℤ}

@[simp] theorem value_zero : value (.zero s) = 0 := rfl

@[simp] theorem value_finite {pos : 0 < m} : value (.finite s m e pos) = s.apply m * 2 ^ e := rfl

theorem abs_apply (s : Sign) (m : ℕ) : |((s.apply m : ℤ) : ℚ)| = m := by
  cases s with
  | positive => rw [Sign.apply, Int.cast_natCast, Nat.abs_cast]
  | negative => rw [Sign.apply, Int.cast_neg, Int.cast_natCast, abs_neg, Nat.abs_cast]

theorem abs_apply_mul (s : Sign) (m : ℕ) (e : ℤ) :
    |((s.apply m : ℤ) : ℚ) * 2 ^ e| = m * 2 ^ e := by
  rw [abs_mul, abs_apply, abs_of_pos (by positivity)]

/-- A mantissa with more places has the same value. -/
theorem apply_shiftLeft (s : Sign) (m : ℕ) {e t : ℤ} (h : t ≤ e) :
    ((s.apply (m <<< (e - t).toNat : ℕ) : ℤ) : ℚ) * 2 ^ t = s.apply m * 2 ^ e := by
  have value := shiftLeft_value m e (e - t).toNat
  rw [show e - (e - t).toNat = t by omega] at value
  cases s with
  | positive => exact value
  | negative =>
    rw [Sign.apply, Sign.apply, Int.cast_neg, Int.cast_neg, neg_mul, neg_mul]
    exact congrArg Neg.neg value

/-- The magnitude of a difference. -/
theorem within_sub (hf : Canonical f) (hg : Canonical g) (finite : f.isFinite)
    (finite' : g.isFinite) (range : IsExponent k) (le : |value f - value g| ≤ 2 ^ k) :
    Within k (sub Format.binary32 f g) := by
  cases f with
  | notANumber => cases finite
  | infinity => cases finite
  | zero s =>
    cases g with
    | notANumber => cases finite'
    | infinity => cases finite'
    | zero s' =>
      rw [sub]
      split <;> exact ⟨_, .zero⟩
    | finite s' m' e' pos' =>
      rw [value_zero, value_finite, zero_sub, abs_neg, abs_apply_mul] at le
      exact ⟨_, .finite pos' hg le⟩
  | finite s m e pos =>
    cases g with
    | notANumber => cases finite'
    | infinity => cases finite'
    | zero s' =>
      rw [value_zero, value_finite, sub_zero, abs_apply_mul] at le
      exact ⟨_, .finite pos hf le⟩
    | finite s' m' e' pos' =>
      -- both mantissas are brought to the smaller exponent
      refine within_normalize range ?_
      rw [← abs_of_pos (show (0 : ℚ) < 2 ^ min e e' by positivity), ← abs_mul, Int.cast_sub,
        sub_mul, apply_shiftLeft s m (min_le_left e e'),
        apply_shiftLeft s' m' (min_le_right e e')]
      exact le

/-- The magnitude of a square. -/
theorem signed_square (h : Within k f) (range : IsExponent (k + k)) :
    Signed .positive (k + k) (mul Format.binary32 f f) := by
  obtain ⟨s, h⟩ := h
  have sign : s * s = .positive := by cases s <;> rfl
  cases h with
  | zero =>
    rw [mul, sign]
    exact .zero
  | @finite m e pos regular le =>
    rw [mul, sign]
    refine signed_roundWithAccuracy (Nat.mul_pos pos pos) ?_ range ?_
    · -- a normal mantissa gives 46 bits at least; a subnormal one has an exponent to spare
      rw [targetExponent_eq]
      obtain ⟨-, least, -, normal | subnormal⟩ := regular
      · have log : 23 ≤ (m * m).log2 :=
          (Nat.le_log2 (Nat.mul_pos pos pos).ne').mpr (normal.trans (Nat.le_mul_of_pos_left m pos))
        omega
      · omega
    · calc ((m * m + 0 : ℕ) : ℚ) * 2 ^ (e + e) = (m * 2 ^ e) * (m * 2 ^ e) := by
            rw [zpow_add₀ two_ne_zero]
            push_cast
            ring
        _ ≤ 2 ^ k * 2 ^ k := mul_le_mul le le (by positivity) (by positivity)
        _ = 2 ^ (k + k) := (zpow_add₀ two_ne_zero k k).symm

/-- The magnitude of a sum of numbers that are not negative. -/
theorem signed_add (hf : Signed .positive k f) (hg : Signed .positive k g)
    (range : IsExponent (k + 1)) : Signed .positive (k + 1) (add Format.binary32 f g) := by
  have double : (2 : ℚ) ^ (k + 1) = 2 ^ k + 2 ^ k := by rw [zpow_add_one₀ two_ne_zero, mul_two]
  have le_double : (2 : ℚ) ^ k ≤ 2 ^ (k + 1) := zpow_le_zpow_right₀ one_le_two (by omega)
  cases hf with
  | zero =>
    cases hg with
    | zero => exact .zero
    | finite pos regular le => exact .finite pos regular (le.trans le_double)
  | @finite m e pos regular le =>
    cases hg with
    | zero => exact .finite pos regular (le.trans le_double)
    | @finite m' e' pos' regular' le' =>
      refine signed_normalize ?_ range ?_
      · exact Int.add_nonneg (Int.natCast_nonneg _) (Int.natCast_nonneg _)
      · rw [Int.cast_add, add_mul, apply_shiftLeft .positive m (min_le_left e e'),
          apply_shiftLeft .positive m' (min_le_right e e'), double]
        exact add_le_add le le'

/-- The root of a number that is at most an odd power of two. -/
theorem sqrt_lt_two_pow {n b : ℕ} (h : 2 * n ≤ 2 ^ (2 * b)) : n.sqrt < 2 ^ b := by
  rw [Nat.sqrt_lt, ← pow_add, ← two_mul]
  have pos : 0 < 2 ^ (2 * b) := by positivity
  omega

/-- The root is taken of a mantissa with so many more places that an even exponent is left, and that
the root has 24 bits or the least exponent. -/
theorem exists_sqrtCore (m : ℕ) (e : ℤ) : ∃ (t : ℤ) (places : ℕ) (acc : Accuracy),
    sqrtCore Format.binary32 m e = ((m <<< places).sqrt, t, acc) ∧ (places : ℤ) = e - 2 * t ∧
      t ≤ Max.max ((m.log2 + 1 + e + 1) / 2 - 24) (-149) := by
  let t := min (e / 2) (Format.binary32.targetExponent ((totalExponent m e + 1) / 2))
  have even : t ≤ e / 2 := min_le_left _ _
  have target : t ≤ Max.max ((m.log2 + 1 + e + 1) / 2 - 24) (-149) := min_le_right _ _
  exact ⟨t, (e - 2 * t).toNat, _, rfl, Int.toNat_of_nonneg (by omega), target⟩

/-- The magnitude of a square root. -/
theorem signed_sqrt (h : Signed .positive (2 * k - 1) f) (range : IsExponent k) :
    Signed .positive k (sqrt Format.binary32 f) := by
  cases h with
  | zero => exact .zero
  | @finite m e pos regular le =>
    obtain ⟨a, exponent, le_pow⟩ := (le_two_zpow_iff pos).mp le
    obtain ⟨t, places, acc, core, left, target⟩ := exists_sqrtCore m e
    obtain ⟨b, half⟩ : ∃ b : ℕ, t + b = k := ⟨(k - t).toNat, by omega⟩
    have large : 2 ^ (m.log2 + places) ≤ m <<< places := by
      rw [Nat.shiftLeft_eq, pow_add]
      exact Nat.mul_le_mul_right _ (Nat.log2_self_le pos.ne')
    have small : 2 * (m <<< places) ≤ 2 ^ (2 * b) := by
      rw [show 2 * b = 1 + a + places by omega, Nat.shiftLeft_eq, pow_add, pow_add, pow_one,
        mul_assoc]
      exact Nat.mul_le_mul_left 2 (Nat.mul_le_mul_right _ le_pow)
    have root_pos : 0 < (m <<< places).sqrt :=
      Nat.sqrt_pos.mpr (lt_of_lt_of_le (by positivity) large)
    have root_lt : (m <<< places).sqrt < 2 ^ b := sqrt_lt_two_pow small
    rw [sqrt, core]
    refine signed_roundWithAccuracy root_pos ?_ range ?_
    · -- above the least exponent the root has 24 bits
      rw [targetExponent_eq]
      by_cases low : t ≤ -149
      case pos => omega
      case neg =>
        have root_large : 2 ^ 23 ≤ (m <<< places).sqrt := by
          rw [Nat.le_sqrt, ← pow_add]
          exact (Nat.pow_le_pow_right two_pos (by omega)).trans large
        have log : 23 ≤ (m <<< places).sqrt.log2 := (Nat.le_log2 root_pos.ne').mpr root_large
        omega
    · exact (le_two_zpow_iff (by omega)).mpr
        ⟨b, half, (Nat.add_le_add_left (slack_le acc) _).trans root_lt⟩

/-! ### Numbers -/

variable {x y : Float32}

theorem unpacked_sub (h : Canonical (sub Format.binary32 (unpacked x) (unpacked y))) :
    unpacked (x - y) = sub Format.binary32 (unpacked x) (unpacked y) :=
  unpacked_packed h

theorem le_iff : x ≤ y ↔ UnpackedFloat.le (unpacked x) (unpacked y) = true :=
  decide_eq_true_iff

/-- Two is at least as large as what lies within two. -/
theorem le_two (h : Signed .positive 1 (unpacked x)) : x ≤ 2 := by
  rw [le_iff]
  have two : unpacked 2 = .finite .positive (2 ^ 23) (-22) (by decide) := rfl
  rw [two]
  generalize unpacked x = f at h
  cases h with
  | zero => rfl
  | @finite m e pos regular le =>
    obtain ⟨a, exponent, le_pow⟩ := (le_two_zpow_iff pos).mp le
    obtain smaller | ⟨rfl, fits⟩ : e < -22 ∨ e = -22 ∧ m ≤ 2 ^ 23 := by
      obtain small | large := Nat.lt_or_ge a 23
      · have : m ≤ 2 ^ 22 := le_pow.trans (Nat.pow_le_pow_right two_pos (by omega))
        have subnormal := regular.2.2.2.resolve_left (by omega)
        omega
      · obtain rfl | larger := large.eq_or_lt
        · exact .inr ⟨by omega, le_pow⟩
        · exact .inl (by omega)
    · rw [UnpackedFloat.le, UnpackedFloat.compare, Int.compare_eq_lt.mpr smaller]
      rfl
    · exact Nat.isLE_compare.mpr fits

/-- The square of a number that lies within one. -/
theorem signed_unpacked_square (h : Within 0 (unpacked x)) :
    Signed .positive 0 (unpacked (x * x)) := by
  have square := signed_square h ⟨by decide, by decide⟩
  have product : unpacked (x * x) = mul Format.binary32 (unpacked x) (unpacked x) :=
    unpacked_packed square.canonical
  rwa [product]

/-- A displacement within one in both directions has a length within two. -/
theorem length_le_two {v : Displacement} (x : Within 0 (unpacked v.x))
    (y : Within 0 (unpacked v.y)) : v.length ≤ 2 := by
  have sum := signed_add (signed_unpacked_square x) (signed_unpacked_square y)
    ⟨by decide, by decide⟩
  have sum_eq : unpacked (v.x * v.x + v.y * v.y)
      = add Format.binary32 (unpacked (v.x * v.x)) (unpacked (v.y * v.y)) :=
    unpacked_packed sum.canonical
  rw [← sum_eq] at sum
  have root := signed_sqrt (k := 1) sum ⟨by decide, by decide⟩
  have root_eq : unpacked v.length = sqrt Format.binary32 (unpacked (v.x * v.x + v.y * v.y)) :=
    unpacked_packed root.canonical
  rw [← root_eq] at root
  exact le_two root

end Single

end Skirmish
