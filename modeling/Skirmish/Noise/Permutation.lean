/-!
# Seeded permutations

The permutation of the 256 byte values that a noise field is built on, shuffled by a small
generator of pseudo-random words.

## Main definitions

* `Noise.Generator` — a generator with four words of state.
* `Noise.Generator.index` — an index below a bound, by rejection.
* `Noise.permutation` — the shuffled byte values for a seed.
-/

namespace Skirmish.Noise

/-- The state of the generator of words. -/
structure Generator where
  x : UInt32
  y : UInt32
  z : UInt32
  w : UInt32
  deriving DecidableEq, Repr

namespace Generator

/-- The state for a seed. -/
def ofSeed (seed : UInt32) : Generator := ⟨1, seed, seed, seed⟩

/-- The next word, and the state after it. -/
def next (g : Generator) : UInt32 × Generator :=
  let t := g.x ^^^ (g.x <<< 11)
  let word := g.w ^^^ (g.w >>> 19) ^^^ (t ^^^ (t >>> 8))
  (word, ⟨g.y, g.z, g.w, word⟩)

/-- How far a positive number may be shifted left within 32 bits. -/
def headroom (n : Nat) : Nat := 31 - n.log2

/-- An index below `bound`: a word is accepted when the low half of its product with the bound lies
in the zone that makes all indices equally likely, and then the high half is the index.  After
`tries` words the next one is accepted in any case. -/
def index (bound : Nat) : Nat → Generator → Nat × Generator
  | 0, g =>
    let (word, g) := g.next
    (word.toNat * bound / UInt32.size, g)
  | tries + 1, g =>
    let (word, g') := g.next
    let product := word.toNat * bound
    if product % UInt32.size < bound <<< headroom bound then (product / UInt32.size, g')
    else index bound tries g'

end Generator

/-- Shuffle the places up to `i`, from the last one down: each is swapped with one at or below it. -/
def shuffle : Nat → Array UInt8 → Generator → Array UInt8
  | 0, values, _ => values
  | i + 1, values, g =>
    let (j, g) := g.index (i + 2) 4096
    shuffle i (values.swapIfInBounds (i + 1) j) g

/-- The byte values in the order that a seed shuffles them into. -/
def permutation (seed : UInt32) : Array UInt8 :=
  shuffle 255 ((Array.range 256).map UInt8.ofNat) (.ofSeed seed)

end Skirmish.Noise
