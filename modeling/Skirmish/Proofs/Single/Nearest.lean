import Skirmish.Proofs.Single.Magnitude

/-!
# Coordinates and the numbers near to them

Coordinates of at most 24 bits are single-precision numbers, and rounding takes them back.  Rounding
moves any other number by a half at most.  So a step of length zero that ends on a point, by its
rounded position, has started near to it.

## Main results

* `value_ofCoord`, `round_ofCoord` — a coordinate becomes its own number, and comes back.
* `value_of_round` — a number lies within a half of the nearest coordinate.
* `within_sub_of_round` — a number that a zero step leaves on a coordinate is near to it.
-/

namespace Skirmish

open Float.Model (Format UnpackedFloat)
open Float.Model.UnpackedFloat

namespace Single

variable {f : UnpackedFloat} {n : Int32} {x : Float32}

/-! ### Coordinates as numbers -/

theorem canonical_neg (h : Canonical f) : Canonical f.neg := by
  cases f with
  | finite s m e pos => exact h
  | _ => exact trivial

theorem isFinite_neg (f : UnpackedFloat) : f.neg.isFinite = f.isFinite := by
  cases f <;> rfl

theorem value_neg (f : UnpackedFloat) : value f.neg = -value f := by
  cases f with
  | finite s m e pos =>
    cases s with
    | positive => exact (congrArg (· * _) (Int.cast_neg _)).trans (neg_mul _ _)
    | negative =>
      show ((m : ℤ) : ℚ) * 2 ^ e = -(((-(m : ℤ) : ℤ) : ℚ) * 2 ^ e)
      rw [Int.cast_neg, neg_mul, neg_neg]
  | _ => exact neg_zero.symm

theorem unpacked_neg (x : Float32) : unpacked (-x) = (unpacked x).neg :=
  unpacked_packed (canonical_neg (canonical_unpacked x))

/-- A natural number of at most 24 bits. -/
theorem value_natural {n : ℕ} (small : n < 2 ^ 24) :
    (unpacked n.toUInt64.toFloat32).isFinite ∧ value (unpacked n.toUInt64.toFloat32) = n := by
  have word : n.toUInt64.toNat = n := UInt64.toNat_ofNat_of_lt (small.trans (by decide))
  have number : n.toUInt64.toFloat32
      = packed (UnpackedFloat.normalize Format.binary32 n 0 .positive) := by
    conv_rhs => rw [← word]
    rfl
  rw [number]
  obtain rfl | pos := Nat.eq_zero_or_pos n
  · exact ⟨rfl, Nat.cast_zero.symm⟩
  · obtain ⟨m, e, mantissa_pos, round, regular, value⟩ := exists_round_natural .positive pos small
    rw [UnpackedFloat.normalize, Int.compare_eq_gt.mpr (Int.natCast_pos.mpr pos), Int.toNat_natCast]
    dsimp only
    have canonical : Canonical (.finite .positive m e mantissa_pos) := regular
    rw [round, unpacked_packed canonical]
    exact ⟨rfl, value⟩

/-- A coordinate of at most 24 bits is a single-precision number. -/
theorem value_ofCoord (small : n.toInt.natAbs < 2 ^ 24) :
    (unpacked (ofCoord n)).isFinite ∧ value (unpacked (ofCoord n)) = n.toInt := by
  obtain ⟨finite, value⟩ := value_natural small
  rw [ofCoord]
  split
  case isTrue negative =>
    have negative : n.toInt < 0 := Int32.lt_iff_toInt_lt.mp negative
    rw [unpacked_neg, isFinite_neg, value_neg, value, ← Int.cast_natCast, Int.natCast_natAbs,
      abs_of_neg negative, Int.cast_neg, neg_neg]
    exact ⟨finite, rfl⟩
  case isFalse nonneg =>
    have nonneg : 0 ≤ n.toInt :=
      Int.not_lt.mp fun negative => nonneg (Int32.lt_iff_toInt_lt.mpr negative)
    rw [value, ← Int.cast_natCast, Int.natCast_natAbs, abs_of_nonneg nonneg]
    exact ⟨finite, rfl⟩

/-! ### Numbers as coordinates -/

/-- Rounding to an integer moves by a half at most. -/
theorem abs_sub_roundScaled_le (m : ℕ) (e : ℤ) : |(m : ℚ) * 2 ^ e - roundScaled m e| ≤ 1 / 2 := by
  cases e with
  | ofNat k =>
    rw [roundScaled, Nat.shiftLeft_eq, Nat.cast_mul, Nat.cast_pow, Nat.cast_ofNat,
      Int.ofNat_eq_natCast, zpow_natCast, sub_self, abs_zero]
    exact one_half_pos.le
  | negSucc k =>
    have unit : (0 : ℚ) < 2 ^ (k + 1) := by positivity
    have half : (2 : ℚ) ^ (k + 1) = 2 * 2 ^ k := pow_succ' 2 k
    obtain ⟨n, rounded⟩ : ∃ n, n = (m + 2 ^ k) / 2 ^ (k + 1) := ⟨_, rfl⟩
    have lower : (n : ℚ) * 2 ^ (k + 1) ≤ m + 2 ^ k := by
      rw [rounded]
      exact_mod_cast Nat.div_mul_le_self (m + 2 ^ k) (2 ^ (k + 1))
    have upper : (m : ℚ) + 2 ^ k < 2 ^ (k + 1) * (n + 1) := by
      rw [rounded]
      exact_mod_cast Nat.lt_mul_div_succ (m + 2 ^ k) (show 0 < 2 ^ (k + 1) by positivity)
    rw [roundScaled, Nat.one_shiftLeft, Nat.shiftRight_eq_div_pow, ← rounded, zpow_negSucc,
      ← div_eq_mul_inv, abs_le, le_sub_iff_add_le, sub_le_iff_le_add, le_div_iff₀ unit,
      div_le_iff₀ unit]
    constructor <;> linarith

/-- A coordinate that is not at an end of the range is not saturated. -/
theorem toInt_eq_of_saturate {z : ℤ} (small : n.toInt.natAbs < 2 ^ 24)
    (h : Coord.saturate z = n) : n.toInt = z := by
  have saturated := Coord.toInt_saturate z
  rw [h] at saturated
  unfold Coord.least Coord.greatest at saturated
  omega

/-- A finite number as a coordinate: an integer nearest to it, saturated. -/
theorem exists_round_eq (finite : (unpacked x).isFinite) :
    ∃ z : ℤ, round x = Coord.saturate z ∧ |value (unpacked x) - z| ≤ 1 / 2 := by
  cases unpack : unpacked x with
  | notANumber =>
    rw [unpack] at finite
    cases finite
  | infinity s =>
    rw [unpack] at finite
    cases finite
  | zero s =>
    refine ⟨0, toCoord_of_zero rfl unpack, ?_⟩
    rw [value_zero, Int.cast_zero, sub_zero, abs_zero]
    exact one_half_pos.le
  | finite s m e pos =>
    refine ⟨s.apply (roundScaled m e), toCoord_of_finite roundScaled unpack, ?_⟩
    rw [value_finite]
    calc |((s.apply m : ℤ) : ℚ) * 2 ^ e - (s.apply (roundScaled m e) : ℤ)|
        = |(m : ℚ) * 2 ^ e - roundScaled m e| := by
          cases s with
          | positive => rfl
          | negative =>
            rw [Sign.apply, Sign.apply, Int.cast_neg, Int.cast_neg, neg_mul, neg_sub_neg,
              abs_sub_comm]
            rfl
      _ ≤ 1 / 2 := abs_sub_roundScaled_le m e

/-- A coordinate is the one nearest to its number. -/
theorem round_ofCoord (small : n.toInt.natAbs < 2 ^ 24) : round (ofCoord n) = n := by
  obtain ⟨finite, value⟩ := value_ofCoord small
  obtain ⟨z, rounded, near⟩ := exists_round_eq finite
  rw [value, ← Int.cast_sub, ← Int.cast_abs] at near
  have exact : n.toInt = z := by
    have close : ((|n.toInt - z| : ℤ) : ℚ) < 1 := near.trans_lt one_half_lt_one
    exact sub_eq_zero.mp (Int.abs_lt_one_iff.mp (by exact_mod_cast close))
  rw [rounded, ← exact, ← Int32.toInt_inj, Coord.toInt_saturate]
  unfold Coord.least Coord.greatest
  omega

/-- A number whose nearest coordinate is not at an end of the range is finite, and lies within a
half of that coordinate. -/
theorem value_of_round (small : n.toInt.natAbs < 2 ^ 24) (number : x.isNaN = false)
    (h : round x = n) :
    (unpacked x).isFinite ∧ |value (unpacked x) - n.toInt| ≤ 1 / 2 := by
  have finite : (unpacked x).isFinite := by
    cases unpack : unpacked x with
    | notANumber =>
      rw [isNaN_eq, unpack] at number
      cases number
    | infinity s =>
      have large : roundScaled 0x800000 105 = 2 ^ 128 := by decide
      obtain saturated | saturated := toCoord_of_infinity roundScaled unpack
      all_goals
        have n_eq := toInt_eq_of_saturate small (saturated.symm.trans h)
        rw [large] at n_eq
        omega
    | zero s => rfl
    | finite s m e pos => rfl
  obtain ⟨z, rounded, near⟩ := exists_round_eq finite
  rw [toInt_eq_of_saturate small (rounded.symm.trans h)]
  exact ⟨finite, near⟩

/-! ### Steps that lead nowhere -/

/-- Adding a zero changes nothing but the sign of a zero. -/
theorem add_zero_eq (f : UnpackedFloat) (s : Sign) : add Format.binary32 f (.zero s) = f ∨
    ∃ t t', f = .zero t ∧ add Format.binary32 f (.zero s) = .zero t' := by
  cases f with
  | zero t =>
    right
    by_cases same : (t == s) = true
    · exact ⟨t, t, rfl, if_pos same⟩
    · exact ⟨t, .positive, rfl, if_neg same⟩
  | _ => exact .inl rfl

theorem exists_zero_of_beq (h : (x == 0) = true) : ∃ s, unpacked x = .zero s := by
  obtain ⟨-, -, rfl | ⟨rfl, -⟩ | ⟨rfl, -⟩⟩ := Float32.beq_iff_ne_nan_and_eq.mp h
  · exact ⟨.positive, rfl⟩
  · exact ⟨.positive, rfl⟩
  · exact ⟨.negative, rfl⟩

theorem sub_nan (a : Float32) : a - Float32.nan = Float32.nan := by
  show packed (sub Format.binary32 (unpacked a) .notANumber) = packed .notANumber
  cases unpacked a <;> rfl

theorem nan_div (b : Float32) : Float32.nan / b = Float32.nan := rfl

theorem nan_mul (c : Float32) : Float32.nan * c = Float32.nan := rfl

/-- What is not a number is handed on by the computation of a step. -/
theorem not_beq_zero_of_isNaN (a b c : Float32) (h : x.isNaN) :
    ((a - x) / b * c == 0) = false := by
  obtain rfl : x = Float32.nan := by simpa using h
  rw [sub_nan, nan_div, nan_mul, Float32.nan_beq_eq_false]

theorem beq_self (h : (unpacked x).isFinite) : (x == x) = true := by
  rw [Float32.beq_self_iff]
  rintro rfl
  cases h

/-- A step of length zero leaves the value as it is. -/
theorem value_of_round_add {v : Float32} (small : n.toInt.natAbs < 2 ^ 24)
    (number : x.isNaN = false) (still : (v == 0) = true) (h : round (x + v) = n) :
    (unpacked x).isFinite ∧ |value (unpacked x) - n.toInt| ≤ 1 / 2 := by
  obtain ⟨s, v_eq⟩ := exists_zero_of_beq still
  have sum : x + v = packed (add Format.binary32 (unpacked x) (.zero s)) := by rw [← v_eq]; rfl
  obtain same | ⟨t, t', x_eq, zero⟩ := add_zero_eq (unpacked x) s
  · have sum : unpacked (x + v) = unpacked x := by
      rw [sum, same, unpacked_packed (canonical_unpacked x)]
    rw [← sum]
    exact value_of_round small (by rwa [isNaN_eq, sum]) h
  · have sum : unpacked (x + v) = .zero t' := by
      rw [sum, zero, unpacked_packed (f := .zero t') trivial]
    obtain ⟨-, near⟩ := value_of_round small (by rw [isNaN_eq, sum]; rfl) h
    rw [sum] at near
    rw [x_eq]
    exact ⟨rfl, near⟩

/-- A number that a zero step leaves on a coordinate is near to it. -/
theorem within_sub_of_round {v : Float32} (small : n.toInt.natAbs < 2 ^ 24)
    (number : x.isNaN = false) (still : (v == 0) = true) (h : round (x + v) = n) :
    Within 0 (unpacked (ofCoord n - x)) := by
  obtain ⟨finite, near⟩ := value_of_round_add small number still h
  obtain ⟨finite', coord⟩ := value_ofCoord small
  have short : |value (unpacked (ofCoord n)) - value (unpacked x)| ≤ 2 ^ (0 : ℤ) := by
    rw [coord, abs_sub_comm]
    exact near.trans (by norm_num)
  obtain ⟨t, signed⟩ := within_sub (canonical_unpacked (ofCoord n)) (canonical_unpacked x)
    finite' finite ⟨by decide, by decide⟩ short
  rw [unpacked_sub signed.canonical]
  exact ⟨t, signed⟩

end Single

end Skirmish
