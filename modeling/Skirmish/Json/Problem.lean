import Skirmish.Decimal.Shortest
import Skirmish.Text.Quoted

/-!
# Problems of reading

A text is read from front to back, and the first problem ends the reading.  Either the text is not
well formed, or it is well formed so far but holds something else than what is wanted.

## Main definitions

* `Json.Found` — what was found where something else was wanted.
* `Json.Mismatch` — in which way the text does not hold what is wanted.
* `Json.Problem` — the first problem of a reading.
* `Json.Mismatch.message` — the report of a mismatch.
-/

namespace Skirmish.Json

/-- What was found. -/
inductive Found where
  | integer (n : Int)
  | real (x : Float)
  | boolean (b : Bool)
  | text (s : String)
  | null
  | sequence
  | map

/-- How numbers are written in reports: positional from `10 ^ -5` up to `10 ^ 16`, else with an
exponent. -/
def reportFormat : RealFormat := ⟨-5, 15⟩

/-- A word between backticks. -/
def ticked (s : String) : String := "`" ++ s ++ "`"

/-- The report of what was found. -/
def Found.message : Found → String
  | .integer n => "integer " ++ ticked (toString n)
  | .real x => "floating point " ++ ticked (reportFormat.write x)
  | .boolean b => "boolean " ++ ticked (if b then "true" else "false")
  | .text s => "string " ++ Text.quoted s
  | .null => "null"
  | .sequence => "sequence"
  | .map => "map"

/-- In which way a text does not hold what is wanted. -/
inductive Mismatch where
  | invalidType (found : Found) (expected : String)
  /-- An integer beyond the range of its type. -/
  | invalidValue (n : Int) (expected : String)
  /-- A list that ends too early. -/
  | invalidLength (n : Nat) (expected : String)
  | missingField (name : String)
  | duplicateField (name : String)
  | unknownVariant (name : String) (known : List String)

/-- The list of what would have been accepted. -/
def oneOf : List String → String
  | [] => "there are no variants"
  | [a] => "expected " ++ ticked a
  | [a, b] => "expected " ++ ticked a ++ " or " ++ ticked b
  | names => "expected one of " ++ ", ".intercalate (names.map ticked)

/-- The report of a mismatch. -/
def Mismatch.message : Mismatch → String
  | .invalidType found expected => "invalid type: " ++ found.message ++ ", expected " ++ expected
  | .invalidValue n expected =>
    "invalid value: " ++ (Found.integer n).message ++ ", expected " ++ expected
  | .invalidLength n expected => "invalid length " ++ toString n ++ ", expected " ++ expected
  | .missingField name => "missing field " ++ ticked name
  | .duplicateField name => "duplicate field " ++ ticked name
  | .unknownVariant name known => "unknown variant " ++ ticked name ++ ", " ++ oneOf known

/-- The first problem of a reading. -/
inductive Problem where
  /-- The text is not well formed. -/
  | malformed
  /-- The text holds something else than what is wanted. -/
  | mismatch (m : Mismatch)

end Skirmish.Json
