import Skirmish.Random.ChaCha

/-!
# Fair dice

A number below a bound is made of the high half of a product, and the carry from the next word never
takes it to the bound.  So a coordinate drawn from a random source lies in the range that was asked
for, whatever the words of the source are.

## Main definitions

* `Random.Dice.IsFair` — dice whose coordinates lie in the range.

## Main results

* `Random.Source.below_lt` — a number below a bound.
* `Random.ChaCha.isFair_dice` — the dice of a match are fair.
-/

namespace Skirmish.Random

/-- Coordinates that are drawn lie in the range that was asked for. -/
structure Dice.IsFair {σ : Type} (dice : Dice σ) : Prop where
  range : ∀ lo hi s, lo < hi → lo ≤ (dice.range lo hi s).1 ∧ (dice.range lo hi s).1 < hi

namespace Source

theorem below_lt {n : Nat} (positive : 0 < n) (s : Source) : (s.below n).1 < n := by
  have first (w : UInt32) : w.toNat * n ≤ (UInt32.size - 1) * n :=
    Nat.mul_le_mul_right n (Nat.le_sub_one_of_lt w.toNat_lt)
  have size : (UInt32.size - 1) * n + n = UInt32.size * n := by
    rw [Nat.sub_mul, Nat.one_mul, Nat.sub_add_cancel (Nat.le_mul_of_pos_left n (by decide))]
  unfold below
  dsimp only
  split
  case isTrue =>
    -- the carry is less than the bound, which is what the product leaves room for
    apply Nat.div_lt_of_lt_mul
    have le := first s.word.1
    have carry : s.word.2.word.1.toNat * n / UInt32.size < n := by
      apply Nat.div_lt_of_lt_mul
      have le' := first s.word.2.word.1
      omega
    omega
  case isFalse =>
    apply Nat.div_lt_of_lt_mul
    have le := first s.word.1
    omega

theorem range_between {lo hi : Int32} (lt : lo < hi) (s : Source) :
    lo ≤ (s.range lo hi).1 ∧ (s.range lo hi).1 < hi := by
  have lt := Int32.lt_iff_toInt_lt.mp lt
  have offset := below_lt (n := (hi.toInt - lo.toInt).toNat) (by omega) s
  have drawn : (s.range lo hi).1
      = Int32.ofInt (lo.toInt + (s.below (hi.toInt - lo.toInt).toNat).1) := rfl
  have least := lo.le_toInt
  have greatest := hi.toInt_lt
  have exact := Int32.toInt_ofInt_of_le
    (n := lo.toInt + (s.below (hi.toInt - lo.toInt).toNat).1) (by omega) (by omega)
  rw [drawn, Int32.le_iff_toInt_le, Int32.lt_iff_toInt_lt, exact]
  omega

end Source

/-- The dice of a match are fair. -/
theorem ChaCha.isFair_dice : ChaCha.dice.IsFair := ⟨fun _ _ s lt => Source.range_between lt s⟩

end Skirmish.Random
