/-!
# Random sources

A random source is a stream of words, produced block by block.  Everything that is drawn from it is
a function of the words in their order.

A match only asks for what `Random.Dice` offers, and may be played with any dice.

## Main definitions

* `Random.Dice` — what can be drawn at random, from whatever state.
* `Random.Source` — a stream of words and how far it has been read.
* `Random.Source.word`, `Random.Source.wide` — one word, and a number made of two words.
* `Random.Source.range` — a coordinate in a half-open range.
* `Random.Source.chance` — an event of a given probability.
-/

namespace Skirmish.Random

/-- What can be drawn at random from a state, which changes with every draw. -/
structure Dice (σ : Type) where
  /-- The state that a seed leads to. -/
  seeded : UInt64 → σ
  /-- A word. -/
  word : σ → UInt32 × σ
  /-- A coordinate from the first one on and below the second one. -/
  range : Int32 → Int32 → σ → Int32 × σ
  /-- Whether an event of a given probability happens. -/
  chance : Float → σ → Bool × σ

/-- A stream of words. -/
structure Source where
  /-- The words of each block: the first one and the others. -/
  block : Nat → UInt32 × List UInt32
  /-- The number of the next block. -/
  position : Nat
  /-- The words of the current block that have not been drawn. -/
  pending : List UInt32

namespace Source

/-- A stream read from its first block. -/
def start (block : Nat → UInt32 × List UInt32) : Source := ⟨block, 0, []⟩

/-- The next word. -/
def word (s : Source) : UInt32 × Source :=
  match s.pending with
  | w :: ws => (w, { s with pending := ws })
  | [] =>
    let (w, ws) := s.block s.position
    (w, { s with position := s.position + 1, pending := ws })

/-- A number of 64 bits: the next word is its low half and the one after that its high half. -/
def wide (s : Source) : Nat × Source :=
  let (low, s) := s.word
  let (high, s) := s.word
  (low.toNat + UInt32.size * high.toNat, s)

/-- A number below `n`: the high half of the product of a word with `n`, raised by the carry from
the next word when the low half leaves room for one. -/
def below (n : Nat) (s : Source) : Nat × Source :=
  let (w, s) := s.word
  let product := w.toNat * n
  -- only then can the next word carry into the high half
  if UInt32.size - n < product % UInt32.size then
    let (w', s) := s.word
    ((product + w'.toNat * n / UInt32.size) / UInt32.size, s)
  else (product / UInt32.size, s)

/-- A coordinate from `lo` on and below `hi`. -/
def range (lo hi : Int32) (s : Source) : Int32 × Source :=
  let (offset, s) := s.below (hi.toInt - lo.toInt).toNat
  (Int32.ofInt (lo.toInt + offset), s)

/-- Whether an event of probability `p` happens. -/
def chance (p : Float) (s : Source) : Bool × Source :=
  let (n, s) := s.wide
  (decide (n < (p * 18446744073709551616).toUInt64.toNat), s)

end Source

end Skirmish.Random
