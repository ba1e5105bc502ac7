import Skirmish.Json.Reader
import Skirmish.Json.Value

/-!
# Codecs

A codec says how the values of a type are written and read.

## Main definitions

* `Json.Codec` — a writer and a reader for a type.
* `Json.Codec.write`, `Json.Codec.writePretty`, `Json.Codec.read` — whole texts.
* `Json.Codec.coordinate`, `word`, `wide`, `variant`, `pair` — the codecs that others are made of.
* `Json.Codec.field` — a field of a record, kept as an optional value in a draft.
-/

namespace Skirmish.Json

/-- A reader followed by a function. -/
def Reader.map {α β : Type} (f : α → β) (r : Reader α) : Reader β := fun ts => do
  let (a, ts) ← r ts
  .ok (f a, ts)

/-- How the values of a type are written and read. -/
structure Codec (α : Type) where
  encode : α → Value
  reader : Reader α

namespace Codec

variable {α β σ : Type}

/-- The text of a value on one line. -/
def write (c : Codec α) (a : α) : String := (c.encode a).compact

/-- The text of a value with one member on each line. -/
def writePretty (c : Codec α) (a : α) : String := (c.encode a).pretty

/-- The value that a text holds. -/
def read (c : Codec α) (text : String) : Except Problem α := readText c.reader text

/-- Integers of a type, by their values. -/
def integer (type : IntegerType) (toInt : α → Int) (ofInt : Int → α) : Codec α where
  encode a := .ofInt (toInt a)
  reader := (readInteger type).map ofInt

/-- Coordinates. -/
def coordinate : Codec Int32 :=
  integer ⟨"i32", -2147483648, 2147483647⟩ Int32.toInt Int32.ofInt

/-- Words of 32 bits. -/
def word : Codec UInt32 :=
  integer ⟨"u32", 0, 4294967295⟩ (fun n => n.toNat) fun n => UInt32.ofNat n.toNat

/-- Words of 64 bits, as the type of integers with a name. -/
def wide (name : String) : Codec UInt64 :=
  integer ⟨name, 0, 18446744073709551615⟩ (fun n => n.toNat) fun n => UInt64.ofNat n.toNat

/-- The values of a finite type, by their names. -/
def variant (all : List α) (name : α → String) : Codec α where
  encode a := .text (name a)
  reader := readVariant all name

/-- Lists of two values. -/
def pair (first : Codec α) (second : Codec β) : Codec (α × β) where
  encode p := .list [first.encode p.1, second.encode p.2]
  reader := readPair first.reader second.reader

/-- A field that is kept as an optional value in a draft. -/
def field (c : Codec β) (name : String) (isOptional : Bool) (get : σ → Option β)
    (set : β → σ → σ) : Field σ where
  name
  isOptional
  isSet draft := (get draft).isSome
  read draft := c.reader.map fun b => set b draft

end Codec

end Skirmish.Json
