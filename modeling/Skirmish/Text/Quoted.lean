import Skirmish.Text.Hidden

/-!
# Quoted texts in reports

A text is quoted in a report so that it can be read unambiguously: quotes and backslashes are
escaped, and characters that are not shown as themselves are written by their code points.
-/

namespace Skirmish.Text

/-- A character written by its code point. -/
def codePoint (c : Char) : List Char :=
  "\\u\x7b".toList ++ Nat.toDigits 16 c.toNat ++ ['\x7d']

/-- Whether a character is written by its code point. -/
def isUnshown (c : Char) : Bool :=
  c.toNat < 0x20 || c.toNat == 0x7F || (0x80 ≤ c.toNat && isHidden c)

/-- How a character is written inside quotes. -/
def escape (c : Char) : List Char :=
  match c with
  | '\x00' => ['\\', '0']
  | '\t' => ['\\', 't']
  | '\r' => ['\\', 'r']
  | '\n' => ['\\', 'n']
  | '\\' => ['\\', '\\']
  | '"' => ['\\', '"']
  | c => if isUnshown c then codePoint c else [c]

/-- A text in quotes. -/
def quoted (s : String) : String :=
  String.ofList ('"' :: s.toList.flatMap escape ++ ['"'])

end Skirmish.Text
