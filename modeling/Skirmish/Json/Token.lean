import Skirmish.Json.Numeral

/-!
# Tokens

A text is read as a list of tokens: brackets, separators, words, numerals and quoted texts, with
blanks between them.  Where no token can be read the list ends with the token `bad`.

## Main definitions

* `Json.Token` — the tokens.
* `Json.Piece` — the parts of a quoted text: characters, and escaped code units.
* `Json.Piece.decode` — the string that a quoted text stands for.
* `Json.Token.scan` — the tokens of a text.
-/

namespace Skirmish.Json

/-! ### Quoted texts -/

/-- One part of a quoted text. -/
inductive Piece where
  /-- A character, written as itself or by a short escape. -/
  | char (c : Char)
  /-- A 16-bit code unit, written by its four hexadecimal digits. -/
  | unit (u : Nat)
  deriving DecidableEq, Repr

namespace Piece

/-- The first half of a pair of code units. -/
def isLead (u : Nat) : Bool := 0xD800 ≤ u && u < 0xDC00

/-- The second half of a pair of code units. -/
def isTrail (u : Nat) : Bool := 0xDC00 ≤ u && u < 0xE000

/-- The character of a pair of code units. -/
def pair (lead trail : Nat) : Char :=
  Char.ofNat (0x10000 + (lead - 0xD800) * 0x400 + (trail - 0xDC00))

/-- The characters that a quoted text stands for; half a pair on its own stands for none. -/
def decode : List Piece → Option (List Char)
  | [] => some []
  | .char c :: ps => (decode ps).map (c :: ·)
  | .unit u :: .unit v :: ps =>
    if isLead u then
      if isTrail v then (decode ps).map (pair u v :: ·) else none
    else if isTrail u then none
    else (decode (.unit v :: ps)).map (Char.ofNat u :: ·)
  | .unit u :: ps =>
    if isLead u || isTrail u then none else (decode ps).map (Char.ofNat u :: ·)

/-- The value of a hexadecimal digit. -/
def hexValue? (c : Char) : Option Nat :=
  if '0' ≤ c ∧ c ≤ '9' then some (c.toNat - '0'.toNat)
  else if 'a' ≤ c ∧ c ≤ 'f' then some (c.toNat - 'a'.toNat + 10)
  else if 'A' ≤ c ∧ c ≤ 'F' then some (c.toNat - 'A'.toNat + 10)
  else none

/-- The code unit that four hexadecimal digits spell. -/
def unitOf? (a b c d : Char) : Option Nat := do
  let a ← hexValue? a
  let b ← hexValue? b
  let c ← hexValue? c
  let d ← hexValue? d
  some (((a * 16 + b) * 16 + c) * 16 + d)

/-- The character that a short escape stands for. -/
def escaped? : Char → Option Char
  | '"' => some '"'
  | '\\' => some '\\'
  | '/' => some '/'
  | 'b' => some '\x08'
  | 'f' => some '\x0c'
  | 'n' => some '\n'
  | 'r' => some '\r'
  | 't' => some '\t'
  | _ => none

/-- The pieces of a quoted text after its opening quote, and what follows the closing one.  Control
characters have to be escaped. -/
def scan : List Char → Option (List Piece × List Char)
  | [] => none
  | '"' :: rest => some ([], rest)
  | '\\' :: 'u' :: a :: b :: c :: d :: rest => do
    let u ← unitOf? a b c d
    let (ps, rest) ← scan rest
    some (.unit u :: ps, rest)
  | '\\' :: c :: rest => do
    let c ← escaped? c
    let (ps, rest) ← scan rest
    some (.char c :: ps, rest)
  | c :: rest =>
    if c.toNat < 0x20 ∨ c = '\\' then none
    else do
      let (ps, rest) ← scan rest
      some (.char c :: ps, rest)

theorem length_scan_lt {cs rest : List Char} {ps : List Piece} (h : scan cs = some (ps, rest)) :
    rest.length < cs.length := by
  induction cs using scan.induct generalizing ps rest with
  | case1 => simp [scan] at h
  | case2 r =>
    simp only [scan, Option.some.injEq, Prod.mk.injEq] at h
    simp [← h.2]
  | case3 a b c d r ih =>
    simp only [scan, Option.bind_eq_bind, Option.bind_eq_some_iff] at h
    obtain ⟨u, -, ⟨ps', r'⟩, hs, h⟩ := h
    have := ih hs
    simp only [Option.some.injEq, Prod.mk.injEq] at h
    rw [← h.2]
    simp only [List.length_cons]
    omega
  | case4 c r hu ih =>
    rw [scan] at h
    · simp only [Option.bind_eq_bind, Option.bind_eq_some_iff] at h
      obtain ⟨u, -, ⟨ps', r'⟩, hs, h⟩ := h
      have := ih hs
      simp only [Option.some.injEq, Prod.mk.injEq] at h
      rw [← h.2]
      simp only [List.length_cons]
      omega
    · exact hu
  | case5 c r h1 h2 h3 hc =>
    rw [scan] at h
    · simp [hc] at h
    all_goals assumption
  | case6 c r h1 h2 h3 hc ih =>
    rw [scan] at h
    · simp only [hc, ↓reduceIte, Option.bind_eq_bind, Option.bind_eq_some_iff] at h
      obtain ⟨⟨ps', r'⟩, hs, h⟩ := h
      have := ih hs
      simp only [Option.some.injEq, Prod.mk.injEq] at h
      rw [← h.2]
      simp only [List.length_cons]
      omega
    all_goals assumption

end Piece

/-! ### Tokens -/

/-- The tokens of a text. -/
inductive Token where
  | openList
  | closeList
  | openRecord
  | closeRecord
  | comma
  | colon
  | null
  | bool (b : Bool)
  | number (n : Numeral)
  | text (pieces : List Piece)
  /-- No token begins here. -/
  | bad
  deriving DecidableEq, Repr

namespace Token

/-- The characters that may stand between tokens. -/
def isBlank (c : Char) : Bool := c == ' ' || c == '\n' || c == '\t' || c == '\r'

/-- The token at the front of a text that starts with no blank, and what follows it. -/
def next? : List Char → Option (Token × List Char)
  | '[' :: rest => some (.openList, rest)
  | ']' :: rest => some (.closeList, rest)
  | '{' :: rest => some (.openRecord, rest)
  | '}' :: rest => some (.closeRecord, rest)
  | ',' :: rest => some (.comma, rest)
  | ':' :: rest => some (.colon, rest)
  | 'n' :: 'u' :: 'l' :: 'l' :: rest => some (.null, rest)
  | 't' :: 'r' :: 'u' :: 'e' :: rest => some (.bool true, rest)
  | 'f' :: 'a' :: 'l' :: 's' :: 'e' :: rest => some (.bool false, rest)
  | '"' :: rest => (Piece.scan rest).map fun (pieces, rest) => (.text pieces, rest)
  | cs => (Numeral.scan cs).map fun (n, rest) => (.number n, rest)

theorem length_next?_lt {cs rest : List Char} {t : Token} (h : next? cs = some (t, rest)) :
    rest.length < cs.length := by
  unfold next? at h
  split at h
  case h_10 r =>
    obtain ⟨⟨ps, r'⟩, hs, h⟩ := Option.map_eq_some_iff.1 h
    have := Piece.length_scan_lt hs
    simp only [Prod.mk.injEq] at h
    simp only [← h.2, List.length_cons]
    omega
  case h_11 =>
    obtain ⟨⟨n, r'⟩, hs, h⟩ := Option.map_eq_some_iff.1 h
    have := Numeral.length_scan_lt hs
    simp only [Prod.mk.injEq] at h
    rwa [← h.2]
  all_goals
    simp only [Option.some.injEq, Prod.mk.injEq] at h
    simp only [← h.2, List.length_cons]
    omega

/-- The tokens of a text. -/
def scan (cs : List Char) : List Token :=
  match _front : cs.dropWhile isBlank with
  | [] => []
  | c :: rest =>
    match _token : next? (c :: rest) with
    | some (t, rest) => t :: scan rest
    | none => [.bad]
termination_by cs.length
decreasing_by
  have shorter := length_next?_lt _token
  have kept := (cs.dropWhile_sublist isBlank).length_le
  rw [_front] at kept
  omega

end Token

end Skirmish.Json
