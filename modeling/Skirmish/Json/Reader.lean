import Skirmish.Json.Problem
import Skirmish.Json.Token

/-!
# Readers

A reader takes a value from the front of a list of tokens.

## Main definitions

* `Json.Reader` — readers.
* `Json.skip` — past any one value, whatever its nesting.
* `Json.readInteger`, `Json.readVariant`, `Json.readPair` — integers in a range, one of several
  names, and lists of two.
* `Json.RecordShape`, `Json.readRecord` — records, from their named fields in any order or from the
  list of their values.
* `Json.readText` — a value that makes up a whole text.
-/

namespace Skirmish.Json

/-- Takes a value from the front of a list of tokens, and gives the tokens that follow. -/
abbrev Reader (α : Type) := List Token → Except Problem (α × List Token)

/-- The reading that ends with a mismatch. -/
def reject {α : Type} (m : Mismatch) : Except Problem α := .error (.mismatch m)

/-- The reading that ends because the text is not well formed. -/
def malformed {α : Type} : Except Problem α := .error .malformed

/-- The string that a quoted text stands for. -/
def textOf (pieces : List Piece) : Except Problem String :=
  match Piece.decode pieces with
  | some cs => .ok (String.ofList cs)
  | none => malformed

/-- What stands at the front where something else was wanted. -/
def found : List Token → Except Problem Found
  | .null :: _ => .ok .null
  | .bool b :: _ => .ok (.boolean b)
  | .number n :: _ =>
    match n.number with
    | some (.integer i) => .ok (.integer i)
    | some (.real x) => .ok (.real x)
    | none => malformed
  | .text pieces :: _ => (textOf pieces).map .text
  | .openList :: _ => .ok .sequence
  | .openRecord :: _ => .ok .map
  | _ => malformed

/-- The reading that ends because something else was wanted. -/
def wrongType {α : Type} (expected : String) (ts : List Token) : Except Problem α := do
  let f ← found ts
  reject (.invalidType f expected)

/-- Past one token. -/
def expect (t : Token) : List Token → Except Problem (List Token)
  | t' :: ts => if t' = t then .ok ts else malformed
  | [] => malformed

/-! ### Skipping -/

/-- A bracket that is still open. -/
inductive Bracket where
  | list
  | record
  deriving DecidableEq, Repr

/-- The token that closes a bracket. -/
def Bracket.closing : Bracket → Token
  | .list => .closeList
  | .record => .closeRecord

/-- What has to come next while a value is skipped. -/
inductive Awaiting where
  /-- A value. -/
  | value
  /-- The first member behind an open bracket, or the closing bracket. -/
  | first
  /-- A key and its colon. -/
  | key
  /-- The colon behind a key. -/
  | colon
  /-- A comma, or the closing bracket. -/
  | next
  deriving DecidableEq, Repr

/-- What has to come behind a comma or an opening bracket. -/
def Bracket.member : Bracket → Awaiting
  | .list => .value
  | .record => .key

/-- Past the rest of a value, with the brackets that are still open, the innermost one first.
Numerals and quoted texts are not looked into. -/
def skipRest : Awaiting → List Bracket → List Token → Except Problem (List Token)
  | .value, opened, t :: ts =>
    match t with
    | .null | .bool _ | .number _ | .text _ =>
      if opened = [] then .ok ts else skipRest .next opened ts
    | .openList => skipRest .first (.list :: opened) ts
    | .openRecord => skipRest .first (.record :: opened) ts
    | _ => malformed
  | .first, b :: opened, t :: ts =>
    -- only here may a closing bracket stand where a member could
    if t = b.closing then
      if opened = [] then .ok ts else skipRest .next opened ts
    else
      match b, t with
      | .record, .text _ => skipRest .colon (b :: opened) ts
      | .list, .null | .list, .bool _ | .list, .number _ | .list, .text _ =>
        skipRest .next (b :: opened) ts
      | .list, .openList => skipRest .first (.list :: b :: opened) ts
      | .list, .openRecord => skipRest .first (.record :: b :: opened) ts
      | _, _ => malformed
  | .key, opened, .text _ :: ts => skipRest .colon opened ts
  | .colon, opened, .colon :: ts => skipRest .value opened ts
  | .next, b :: opened, t :: ts =>
    if t = b.closing then
      if opened = [] then .ok ts else skipRest .next opened ts
    else if t = .comma then skipRest b.member (b :: opened) ts
    else malformed
  | _, _, _ => malformed

/-- Past one value. -/
def skip (ts : List Token) : Except Problem (List Token) := skipRest .value [] ts

/-! ### Single values -/

/-- A type of integers: its name and its range. -/
structure IntegerType where
  name : String
  least : Int
  greatest : Int

/-- An integer of a type. -/
def readInteger (type : IntegerType) : Reader Int
  | .number n :: ts =>
    match n.number with
    | some (.integer i) =>
      if type.least ≤ i ∧ i ≤ type.greatest then .ok (i, ts)
      else reject (.invalidValue i type.name)
    | some (.real x) => reject (.invalidType (.real x) type.name)
    | none => malformed
  | ts => wrongType type.name ts

/-- The value with a name. -/
def variantOf {α : Type} (all : List α) (name : α → String) (s : String) : Except Problem α :=
  match all.find? fun a => name a == s with
  | some a => .ok a
  | none => reject (.unknownVariant s (all.map name))

/-- One of several values, written by its name: as a text, or as the only key of a record whose
value is null.  Nothing else is well formed in its place. -/
def readVariant {α : Type} (all : List α) (name : α → String) : Reader α
  | .text pieces :: ts => do
    let s ← textOf pieces
    let a ← variantOf all name s
    .ok (a, ts)
  | .openRecord :: .text pieces :: ts => do
    let s ← textOf pieces
    let a ← variantOf all name s
    let ts ← expect .colon ts
    match ts with
    | .null :: ts => do
      let ts ← expect .closeRecord ts
      .ok (a, ts)
    | ts => wrongType "unit" ts
  | _ => malformed

/-- Past the comma in front of a further list element, or past nothing in front of the first one; a
closing bracket may not follow the comma. -/
def toElement (isFirst : Bool) (ts : List Token) : Except Problem (List Token) :=
  if isFirst then .ok ts
  else do
    let ts ← expect .comma ts
    match ts with
    | .closeList :: _ => malformed
    | ts => .ok ts

/-- A list of two values. -/
def readPair {α β : Type} (first : Reader α) (second : Reader β) : Reader (α × β)
  | .openList :: ts =>
    let expected := "a tuple of size 2"
    match ts with
    | .closeList :: _ => reject (.invalidLength 0 expected)
    | ts => do
      let (a, ts) ← first ts
      match ts with
      | .closeList :: _ => reject (.invalidLength 1 expected)
      | ts => do
        let ts ← toElement false ts
        let (b, ts) ← second ts
        let ts ← expect .closeList ts
        .ok ((a, b), ts)
  | ts => wrongType "a tuple of size 2" ts

/-! ### Records -/

/-- A field of a record that is collected in a draft. -/
structure Field (σ : Type) where
  name : String
  /-- Whether the record can do without the field. -/
  isOptional : Bool
  /-- Whether the draft has the field. -/
  isSet : σ → Bool
  /-- The value of the field, put into the draft. -/
  read : σ → Reader σ

/-- A kind of record: its fields, collected in a draft, and what a draft amounts to. -/
structure RecordShape (σ α : Type) where
  name : String
  fields : List (Field σ)
  blank : σ
  /-- The record of a draft that has every field that the record cannot do without. -/
  build : σ → Option α

namespace RecordShape

variable {σ α : Type}

/-- The record of a draft, or the first field that it lacks. -/
def finish (r : RecordShape σ α) (draft : σ) : Except Problem α :=
  match r.fields.find? fun f => !f.isOptional && !f.isSet draft with
  | some f => reject (.missingField f.name)
  | none =>
    match r.build draft with
    | some a => .ok a
    | none => malformed

/-- The value behind a key, put into the draft; the value of a key that names no field is passed
over. -/
def readMember (r : RecordShape σ α) (key : String) (draft : σ) : Reader σ := fun ts =>
  match r.fields.find? fun f => f.name == key with
  | some f =>
    if f.isSet draft then reject (.duplicateField f.name)
    else do
      let ts ← expect .colon ts
      f.read draft ts
  | none => do
    let ts ← expect .colon ts
    let ts ← skip ts
    .ok (draft, ts)

/-- The members of a record up to its closing bracket, at most as many as the first number says. -/
def readMembers (r : RecordShape σ α) : Nat → (isFirst : Bool) → σ → Reader σ
  | _, _, draft, .closeRecord :: ts => .ok (draft, ts)
  | bound + 1, true, draft, .text pieces :: ts
  | bound + 1, false, draft, .comma :: .text pieces :: ts => do
    let key ← textOf pieces
    let (draft, ts) ← r.readMember key draft ts
    readMembers r bound false draft ts
  | _, _, _, _ => malformed

/-- The values of a record in the order of its fields; the last ones may be left out if they are
optional. -/
def readElements (r : RecordShape σ α) : List (Field σ) → (isFirst : Bool) → σ → Reader σ
  | [], _, draft, ts => do
    let ts ← expect .closeList ts
    .ok (draft, ts)
  | f :: fs, isFirst, draft, ts =>
    match ts with
    | .closeList :: rest =>
      match (f :: fs).findIdx? fun f => !f.isOptional with
      | some i =>
        reject (.invalidLength (r.fields.length - (f :: fs).length + i)
          ("struct " ++ r.name ++ " with " ++ toString r.fields.length ++ " elements"))
      | none => .ok (draft, rest)
    | ts => do
      let ts ← toElement isFirst ts
      let (draft, ts) ← f.read draft ts
      readElements r fs false draft ts

end RecordShape

/-- A record, from its fields or from the list of their values. -/
def readRecord {σ α : Type} (r : RecordShape σ α) : Reader α
  | .openRecord :: ts => do
    let (draft, ts) ← r.readMembers ts.length true r.blank ts
    let a ← r.finish draft
    .ok (a, ts)
  | .openList :: ts => do
    let (draft, ts) ← r.readElements r.fields true r.blank ts
    let a ← r.finish draft
    .ok (a, ts)
  | ts => wrongType ("struct " ++ r.name) ts

/-! ### Whole texts -/

/-- The value that a whole text holds. -/
def readText {α : Type} (reader : Reader α) (text : String) : Except Problem α := do
  let (a, rest) ← reader (Token.scan text.toList)
  match rest with
  | [] => .ok a
  | _ :: _ => malformed

end Skirmish.Json
