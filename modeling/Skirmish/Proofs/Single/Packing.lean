import Mathlib
import Skirmish.Single

/-!
# Single-precision numbers and their words

A single-precision number is a word of 32 bits.  Arithmetic unpacks the word into sign, mantissa and
exponent, works on those and packs the result.  The numbers that come out of unpacking are in one
form only, and what is in this form comes out as it went in.

## Main definitions

* `Single.Regular`, `Single.Canonical` — the form of unpacked numbers.
* `Single.unpacked`, `Single.packed` — the passages between numbers and their unpacked form.

## Main results

* `canonical_unpacked`, `unpacked_packed` — unpacking gives canonical numbers, and packing keeps
  them.
* `toCoord_of_finite` — a finite number as a coordinate, by its sign, mantissa and exponent.
-/

namespace Skirmish

open Float.Model (Format UnpackedFloat)
open Float.Model.UnpackedFloat

namespace Single

/-- Mantissa and exponent of a finite number: a normal or a subnormal one. -/
def Regular (m : ℕ) (e : ℤ) : Prop :=
  m < 2 ^ 24 ∧ -149 ≤ e ∧ e ≤ 104 ∧ (2 ^ 23 ≤ m ∨ e = -149)

/-- The numbers that unpacking gives. -/
def Canonical : UnpackedFloat → Prop
  | .finite _ m e _ => Regular m e
  | _ => True

/-! ### The fields of a word -/

variable {b : BitVec Format.binary32.numBits} {s : Sign} {m : ℕ} {e : ℤ} {pos : 0 < m}

theorem toNat_unpackMantissa (b : BitVec Format.binary32.numBits) :
    (unpackMantissa b).toNat = b.toNat % 0x800000 := by
  simp [unpackMantissa]

theorem toNat_unpackExponent (b : BitVec Format.binary32.numBits) :
    (unpackExponent b).toNat = b.toNat / 0x800000 % 0x100 := by
  simp [unpackExponent, Nat.shiftRight_eq_div_pow]

theorem toNat_unpackSign (b : BitVec Format.binary32.numBits) :
    (unpackSign b).toNat = b.toNat / 0x80000000 := by
  have bound : b.toNat < 2 ^ 32 := b.isLt
  have shifted : (unpackSign b).toNat = b.toNat / 0x80000000 % 2 := by
    simp [unpackSign, Nat.shiftRight_eq_div_pow]
  omega

/-- The leading bit of a normal number is implicit. -/
theorem toNat_implicit (fraction : BitVec 23) :
    (1#1 ++ fraction).toNat = fraction.toNat + 0x800000 := by
  rw [BitVec.toNat_append, ← Nat.shiftLeft_add_eq_or_of_lt fraction.isLt, Nat.add_comm]
  rfl

theorem exponentBias : Format.binary32.exponentBias = 127 := rfl

/-- The fields of a finite number. -/
theorem fields_of_finite (h : unpack Format.binary32 b = .finite s m e pos) :
    s = .ofBitVec (unpackSign b) ∧
      (b.toNat / 0x800000 % 0x100 = 0 ∧ m = b.toNat % 0x800000 ∧ e = -149 ∨
        0 < b.toNat / 0x800000 % 0x100 ∧ b.toNat / 0x800000 % 0x100 < 0xff ∧
          m = b.toNat % 0x800000 + 0x800000 ∧ e = (b.toNat / 0x800000 % 0x100 : ℕ) - 150) := by
  have exponent := toNat_unpackExponent b
  have fraction := toNat_unpackMantissa b
  unfold unpack at h
  dsimp only at h
  split at h
  case isTrue => split at h <;> cases h
  case isFalse finite =>
    split at h
    case isTrue zero =>
      split at h
      case isTrue => cases h
      case isFalse =>
        rw [zero] at exponent h
        obtain ⟨rfl, rfl, rfl⟩ := UnpackedFloat.finite.inj h
        exact ⟨rfl, .inl ⟨exponent.symm, fraction, rfl⟩⟩
    case isFalse normal =>
      obtain ⟨rfl, rfl, rfl⟩ := UnpackedFloat.finite.inj h
      rw [← BitVec.toNat_inj, exponent] at finite normal
      have finite : ¬ b.toNat / 0x800000 % 0x100 = 0xff := finite
      have normal : ¬ b.toNat / 0x800000 % 0x100 = 0 := normal
      refine ⟨rfl, .inr ⟨by omega, by omega, ?_, ?_⟩⟩
      · rw [toNat_implicit, fraction]
      · rw [exponentBias, exponent]
        rfl

/-- The fields of an infinity. -/
theorem fields_of_infinity (h : unpack Format.binary32 b = .infinity s) :
    b.toNat / 0x800000 % 0x100 = 0xff ∧ b.toNat % 0x800000 = 0 := by
  rw [← toNat_unpackExponent, ← toNat_unpackMantissa]
  unfold unpack at h
  dsimp only at h
  split at h
  case isTrue infinite =>
    split at h
    case isTrue whole => exact ⟨by rw [infinite]; rfl, by rw [whole]; rfl⟩
    case isFalse => cases h
  case isFalse =>
    split at h
    case isTrue => split at h <;> cases h
    case isFalse => cases h

theorem fields_of_zero (h : unpack Format.binary32 b = .zero s) :
    b.toNat / 0x800000 % 0x100 = 0 ∧ b.toNat % 0x800000 = 0 := by
  rw [← toNat_unpackExponent, ← toNat_unpackMantissa]
  unfold unpack at h
  dsimp only at h
  split at h
  case isTrue => split at h <;> cases h
  case isFalse =>
    split at h
    case isTrue zero =>
      split at h
      case isTrue whole => exact ⟨by rw [zero]; rfl, by rw [whole]; rfl⟩
      case isFalse => cases h
    case isFalse => cases h

theorem canonical_unpack (b : BitVec Format.binary32.numBits) :
    Canonical (unpack Format.binary32 b) := by
  cases h : unpack Format.binary32 b with
  | finite s m e pos =>
    obtain ⟨-, ⟨-, m_eq, e_eq⟩ | ⟨normal, finite, m_eq, e_eq⟩⟩ := fields_of_finite h
    · exact ⟨by omega, by omega, by omega, .inr e_eq⟩
    · exact ⟨by omega, by omega, by omega, .inl (by omega)⟩
  | _ => exact trivial

/-! ### Packing -/

/-- What comes out of a word that is put together from its fields. -/
theorem unpack_packComponents (s : Sign) (exponent : BitVec 8) (fraction : BitVec 23) :
    unpack Format.binary32 (packComponents Format.binary32 s exponent fraction) =
      if exponent = -1#8 then if fraction = 0#23 then .infinity s else .notANumber
      else if exponent = 0#8 then
        if h : fraction = 0#23 then .zero s
        else .finite s fraction.toNat (-149) (by simpa [BitVec.toNat_pos, BitVec.pos_iff_ne_zero])
      else .finite s (fraction.toNat + 0x800000) (exponent.toNat - 150) (Nat.succ_pos _) := by
  unfold unpack
  simp only [unpackMantissa_packComponents, unpackExponent_packComponents,
    unpackSign_packComponents, Sign.ofBitVec_toBitVec, toNat_implicit, exponentBias]
  split
  case isTrue => rfl
  case isFalse =>
    split
    case isTrue zero => subst zero; rfl
    case isFalse => rfl

/-- **Packing keeps what is canonical.** -/
theorem unpack_pack {f : UnpackedFloat} (h : Canonical f) :
    unpack Format.binary32 (pack Format.binary32 f) = f := by
  cases f with
  | notANumber => exact unpack_packedNaN
  | infinity s => exact unpack_packComponents ..
  | zero s => exact unpack_packedZero
  | finite s m e pos =>
    obtain ⟨bound, least, greatest, regular⟩ := h
    -- the exponent as it is stored
    let stored := (e + Format.binary32.exponentBias +
      Format.binary32.mantissaBitsWithoutImplicit).toNat
    have stored_eq : (stored : ℤ) = e + 150 :=
      (Int.toNat_of_nonneg (show 0 ≤ e + 127 + 23 by omega)).trans (by rw [Int.add_assoc]; rfl)
    have finite : ¬ 2 ^ Format.binary32.exponentBits ≤ stored + 1 := by
      show ¬ 2 ^ 8 ≤ _
      omega
    rw [pack, if_neg finite]
    by_cases normal : 2 ^ 23 ≤ m
    case pos =>
      have log : m.log2 + 1 = Format.binary32.mantissaBits := by
        rw [(Nat.log2_eq_iff (by omega)).mpr ⟨normal, bound⟩]
        rfl
      have finite : BitVec.ofNat 8 stored ≠ -1#8 := by
        rw [Ne, ← BitVec.toNat_inj, BitVec.toNat_ofNat]
        show ¬ _ = 255
        omega
      have large : BitVec.ofNat 8 stored ≠ 0#8 := by
        rw [Ne, ← BitVec.toNat_inj, BitVec.toNat_ofNat]
        show ¬ _ = 0
        omega
      rw [if_pos log, unpack_packComponents, if_neg finite, if_neg large]
      congr 1
      · rw [BitVec.toNat_ofNat]; omega
      · rw [BitVec.toNat_ofNat]; omega
    case neg =>
      have log : ¬ m.log2 + 1 = Format.binary32.mantissaBits := by
        show ¬ _ = 24
        have : m.log2 < 23 := (Nat.log2_lt (by omega)).mpr (by omega)
        omega
      have nonzero : BitVec.ofNat 23 m ≠ 0#23 := by
        rw [Ne, ← BitVec.toNat_inj, BitVec.toNat_ofNat]
        show ¬ _ = 0
        omega
      rw [if_neg log, unpack_packComponents, if_neg (by decide), if_pos rfl, dif_neg nonzero]
      congr 1
      · rw [BitVec.toNat_ofNat]; omega
      · exact (regular.resolve_left normal).symm

/-! ### Numbers -/

/-- The word of a number. -/
def word (x : Float32) : BitVec Format.binary32.numBits := x.toBits.toBitVec

/-- The unpacked form of a number. -/
def unpacked (x : Float32) : UnpackedFloat := unpack Format.binary32 (word x)

/-- The number with an unpacked form. -/
def packed (f : UnpackedFloat) : Float32 := .ofModel (.pack f)

theorem canonical_unpacked (x : Float32) : Canonical (unpacked x) := canonical_unpack (word x)

theorem unpacked_packed {f : UnpackedFloat} (h : Canonical f) : unpacked (packed f) = f :=
  unpack_pack h

variable {x : Float32}

theorem isNaN_eq (x : Float32) : x.isNaN = (unpacked x).isNaN := rfl

theorem scaled_of_finite (h : unpacked x = .finite s m e pos) : scaled x = (m, e) := by
  obtain ⟨-, ⟨zero, m_eq, e_eq⟩ | ⟨normal, -, m_eq, e_eq⟩⟩ := fields_of_finite h
  · rw [m_eq, e_eq]
    exact if_pos zero
  · rw [m_eq, e_eq]
    exact if_neg normal.ne'

theorem scaled_of_zero (h : unpacked x = .zero s) : scaled x = (0, -149) := by
  obtain ⟨zero, whole⟩ := fields_of_zero h
  exact (if_pos zero).trans (congrArg (·, -149) whole)

/-- An infinity reads as the power of two after the last finite number. -/
theorem scaled_of_infinity (h : unpacked x = .infinity s) : scaled x = (0x800000, 105) := by
  obtain ⟨infinite, whole⟩ := fields_of_infinity h
  have infinite : x.toBits.toNat / 0x800000 % 0x100 = 0xff := infinite
  have whole : x.toBits.toNat % 0x800000 = 0 := whole
  rw [scaled, infinite, whole]
  rfl

/-- The sign bit is the sign. -/
theorem apply_unpackSign (x : Float32) (n : ℤ) :
    (Sign.ofBitVec (unpackSign (word x))).apply n
      = if isNegative x then -n else n := by
  have bit : (unpackSign (word x)).toNat = x.toBits.toNat / 0x80000000 :=
    toNat_unpackSign _
  by_cases negative : 0x80000000 ≤ x.toBits.toNat
  case pos =>
    have set : unpackSign (word x) ≠ 0#1 := by
      intro unset
      rw [unset, BitVec.toNat_zero] at bit
      omega
    rw [isNegative, decide_eq_true negative, if_pos rfl, Sign.ofBitVec, if_neg set]
    rfl
  case neg =>
    have unset : unpackSign (word x) = 0#1 := by
      rw [← BitVec.toNat_inj, bit, BitVec.toNat_zero]
      omega
    rw [isNegative, decide_eq_false negative, if_neg Bool.false_ne_true, Sign.ofBitVec,
      if_pos unset]
    rfl

/-- A finite number as a coordinate. -/
theorem toCoord_of_finite (rule : ℕ → ℤ → ℕ) (h : unpacked x = .finite s m e pos) :
    toCoord rule x = Coord.saturate (s.apply (rule m e)) := by
  have number : x.isNaN = false := by rw [isNaN_eq, h]; rfl
  rw [toCoord, number, if_neg Bool.false_ne_true, scaled_of_finite h, (fields_of_finite h).1,
    apply_unpackSign]

/-- A zero as a coordinate. -/
theorem toCoord_of_zero {rule : ℕ → ℤ → ℕ} (keeps : rule 0 (-149) = 0) (h : unpacked x = .zero s) :
    toCoord rule x = Coord.saturate 0 := by
  have number : x.isNaN = false := by rw [isNaN_eq, h]; rfl
  rw [toCoord, number, if_neg Bool.false_ne_true, scaled_of_zero h]
  dsimp only
  rw [keeps]
  exact congrArg Coord.saturate (ite_self 0)

/-- A number that is not finite, as a coordinate. -/
theorem toCoord_of_infinity (rule : ℕ → ℤ → ℕ) (h : unpacked x = .infinity s) :
    toCoord rule x = Coord.saturate (rule 0x800000 105) ∨
      toCoord rule x = Coord.saturate (-(rule 0x800000 105 : ℕ)) := by
  have number : x.isNaN = false := by rw [isNaN_eq, h]; rfl
  rw [toCoord, number, if_neg Bool.false_ne_true, scaled_of_infinity h]
  cases isNegative x
  · exact .inl rfl
  · exact .inr rfl

end Single

end Skirmish
