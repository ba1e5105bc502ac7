import Skirmish.Json.Numeral

/-!
# Values and their texts

## Main definitions

* `Json.Value` — what a text can hold.
* `Json.Value.compact` — the text of a value on one line, without blanks.
* `Json.Value.pretty` — the text of a value with one member on each line.
-/

namespace Skirmish.Json

namespace Numeral

/-- A decimal digit as a character. -/
def digitChar (d : Nat) : Char := Char.ofNat ('0'.toNat + d)

/-- The decimal digits of a natural, the most significant one first. -/
def digitsOf (n : Nat) : List Nat := (Nat.toDigits 10 n).map digitValue

/-- The numeral of an integer. -/
def ofInt (n : Int) : Numeral := ⟨decide (n < 0), digitsOf n.natAbs, [], none⟩

/-- The text of a numeral. -/
def text (n : Numeral) : List Char :=
  let sign := if n.negative then ['-'] else []
  let fraction := match n.fraction with
    | [] => []
    | ds => '.' :: ds.map digitChar
  let exponent := match n.exponent with
    | none => []
    | some e => 'e' :: (if e.negative then ['-'] else []) ++ e.digits.map digitChar
  sign ++ n.whole.map digitChar ++ fraction ++ exponent

end Numeral

/-- What a text can hold. -/
inductive Value where
  | null
  | bool (b : Bool)
  | number (n : Numeral)
  | text (s : String)
  | list (items : List Value)
  | record (fields : List (String × Value))

namespace Value

/-- The value of an integer. -/
def ofInt (n : Int) : Value := .number (.ofInt n)

/-- How a character is written inside quotes. -/
def escape (c : Char) : List Char :=
  match c with
  | '"' => ['\\', '"']
  | '\\' => ['\\', '\\']
  | '\x08' => ['\\', 'b']
  | '\x0c' => ['\\', 'f']
  | '\n' => ['\\', 'n']
  | '\r' => ['\\', 'r']
  | '\t' => ['\\', 't']
  | c =>
    if c.toNat < 0x20 then
      ['\\', 'u', '0', '0', (c.toNat / 16).digitChar, (c.toNat % 16).digitChar]
    else [c]

/-- A string in quotes. -/
def quote (s : String) : List Char := '"' :: s.toList.flatMap escape ++ ['"']

/-- The text of a value that is neither a list nor a record. -/
def atom : Value → List Char
  | .bool true => ['t', 'r', 'u', 'e']
  | .bool false => ['f', 'a', 'l', 's', 'e']
  | .number n => n.text
  | .text s => quote s
  | _ => ['n', 'u', 'l', 'l']

/-! ### On one line -/

mutual

/-- The characters of a value on one line. -/
def compactChars : Value → List Char
  | .list items => '[' :: compactItems items ++ [']']
  | .record fields => '{' :: compactFields fields ++ ['}']
  | v => v.atom

/-- The items of a list, with commas between them. -/
def compactItems : List Value → List Char
  | [] => []
  | [v] => compactChars v
  | v :: vs => compactChars v ++ ',' :: compactItems vs

/-- The fields of a record, with commas between them. -/
def compactFields : List (String × Value) → List Char
  | [] => []
  | [(key, v)] => quote key ++ ':' :: compactChars v
  | (key, v) :: fields => quote key ++ ':' :: compactChars v ++ ',' :: compactFields fields

end

/-- The text of a value on one line, without blanks. -/
def compact (v : Value) : String := String.ofList v.compactChars

/-! ### One member on each line -/

/-- A new line at a depth of nesting; each level is indented by two blanks. -/
def newLine (depth : Nat) : List Char := '\n' :: List.replicate (2 * depth) ' '

mutual

/-- The characters of a value at a depth of nesting. -/
def prettyChars (depth : Nat) : Value → List Char
  | .list [] => ['[', ']']
  | .list (v :: vs) =>
    '[' :: newLine (depth + 1) ++ prettyChars (depth + 1) v ++ prettyItems (depth + 1) vs
      ++ newLine depth ++ [']']
  | .record [] => ['{', '}']
  | .record ((key, v) :: fields) =>
    '{' :: newLine (depth + 1) ++ quote key ++ [':', ' '] ++ prettyChars (depth + 1) v
      ++ prettyFields (depth + 1) fields ++ newLine depth ++ ['}']
  | v => v.atom

/-- The further items of a list, each behind a comma and on its own line. -/
def prettyItems (depth : Nat) : List Value → List Char
  | [] => []
  | v :: vs => ',' :: newLine depth ++ prettyChars depth v ++ prettyItems depth vs

/-- The further fields of a record, each behind a comma and on its own line. -/
def prettyFields (depth : Nat) : List (String × Value) → List Char
  | [] => []
  | (key, v) :: fields =>
    ',' :: newLine depth ++ quote key ++ [':', ' '] ++ prettyChars depth v
      ++ prettyFields depth fields

end

/-- The text of a value with one member on each line and no line break at the end. -/
def pretty (v : Value) : String := String.ofList (v.prettyChars 0)

end Value

end Skirmish.Json
