import Skirmish.Random.Source

/-!
# ChaCha with twelve rounds

The random source of a match: the ChaCha block function in counter mode.  The sixteen words of a
state are held as four rows of four lanes; a round works on all four columns at once, and on the
diagonals after the rows have been turned against each other.

## Main definitions

* `Random.ChaCha.block` — the words of one block under a key.
* `Random.ChaCha.ofSeed` — the source whose key is expanded from a seed of 64 bits.
* `Random.ChaCha.dice` — what is drawn from that source.
-/

namespace Skirmish.Random.ChaCha

/-- One row of a state: four words, one for each column. -/
structure Row where
  a : UInt32
  b : UInt32
  c : UInt32
  d : UInt32
  deriving DecidableEq, Repr

namespace Row

/-- An operation in each lane. -/
def zipWith (f : UInt32 → UInt32 → UInt32) (r s : Row) : Row :=
  ⟨f r.a s.a, f r.b s.b, f r.c s.c, f r.d s.d⟩

/-- The lanes turned left by one place. -/
def turn (r : Row) : Row := ⟨r.b, r.c, r.d, r.a⟩

/-- The words of a row. -/
def toList (r : Row) : List UInt32 := [r.a, r.b, r.c, r.d]

end Row

/-- A word rotated left. -/
def rotateLeft (w : UInt32) (bits : UInt32) : UInt32 :=
  (w <<< bits) ||| (w >>> (32 - bits))

/-- The state of the block function. -/
structure State where
  first : Row
  second : Row
  third : Row
  fourth : Row
  deriving DecidableEq, Repr

namespace State

/-- Sum, exclusive or and rotation: the step that a round repeats four times. -/
def mix (sum other : Row) (bits : UInt32) : Row :=
  other.zipWith (fun x y => rotateLeft (x ^^^ y) bits) sum

/-- One round on the four columns. -/
def columns (s : State) : State :=
  let first := s.first.zipWith (· + ·) s.second
  let fourth := mix first s.fourth 16
  let third := s.third.zipWith (· + ·) fourth
  let second := mix third s.second 12
  let first := first.zipWith (· + ·) second
  let fourth := mix first fourth 8
  let third := third.zipWith (· + ·) fourth
  let second := mix third second 7
  ⟨first, second, third, fourth⟩

/-- The rows turned so that the diagonals become columns. -/
def toDiagonals (s : State) : State :=
  ⟨s.first, s.second.turn, s.third.turn.turn, s.fourth.turn.turn.turn⟩

/-- The rows turned back. -/
def ofDiagonals (s : State) : State :=
  ⟨s.first, s.second.turn.turn.turn, s.third.turn.turn, s.fourth.turn⟩

/-- Two rounds: one on the columns and one on the diagonals. -/
def doubleRound (s : State) : State := s.columns.toDiagonals.columns.ofDiagonals

/-- The sum of two states, word by word. -/
def add (s t : State) : State :=
  ⟨s.first.zipWith (· + ·) t.first, s.second.zipWith (· + ·) t.second,
    s.third.zipWith (· + ·) t.third, s.fourth.zipWith (· + ·) t.fourth⟩

end State

/-- A key of eight words. -/
structure Key where
  low : Row
  high : Row
  deriving DecidableEq, Repr

/-- The first row of every state: `expand 32-byte k` in little-endian words. -/
def constants : Row := ⟨0x61707865, 0x3320646e, 0x79622d32, 0x6b206574⟩

/-- The state that a block starts from: constants, key, and the block number in two words. -/
def initial (key : Key) (n : Nat) : State :=
  ⟨constants, key.low, key.high, ⟨UInt32.ofNat n, UInt32.ofNat (n / UInt32.size), 0, 0⟩⟩

/-- The words of a block: twelve rounds, and the initial state added. -/
def block (key : Key) (n : Nat) : UInt32 × List UInt32 :=
  let start := initial key n
  let s := start.add (Nat.repeat State.doubleRound 6 start)
  (s.first.a, [s.first.b, s.first.c, s.first.d] ++ s.second.toList ++ s.third.toList
    ++ s.fourth.toList)

/-! ### Seeding -/

/-- One step of the generator that expands a seed. -/
def advance (state : UInt64) : UInt64 :=
  state * 6364136223846793005 + 11634580027462260723

/-- The word that the generator gives in a state: a rotation that the state itself chooses. -/
def output (state : UInt64) : UInt32 :=
  let word := (((state >>> 18) ^^^ state) >>> 27).toUInt32
  let bits := (state >>> 59).toUInt32
  (word >>> bits) ||| (word <<< ((32 - bits) % 32))

/-- The row made of the next four words of the generator, and the state after them. -/
def expandRow (state : UInt64) : Row × UInt64 :=
  let s1 := advance state
  let s2 := advance s1
  let s3 := advance s2
  let s4 := advance s3
  (⟨output s1, output s2, output s3, output s4⟩, s4)

/-- The key expanded from a seed. -/
def expandKey (seed : UInt64) : Key :=
  let (low, state) := expandRow seed
  let (high, _) := expandRow state
  ⟨low, high⟩

/-- The random source of a seed. -/
def ofSeed (seed : UInt64) : Source := .start (block (expandKey seed))

/-- Dice that draw from the random source of their seed. -/
def dice : Dice Source := ⟨ofSeed, Source.word, Source.range, Source.chance⟩

end Skirmish.Random.ChaCha
