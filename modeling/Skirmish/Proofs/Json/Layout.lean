import Mathlib.Data.List.Chain
import Mathlib.Data.List.TakeWhile
import Skirmish.Json.Token
import Skirmish.Proofs.Json.Numeral

/-!
# Tokens laid out as texts

A list of tokens can be laid out in many ways: any number of blanks may stand in front of each token
and behind the last one, and quoted texts and numerals have several spellings.  The tokens are read
back from every layout, unless two numerals stand side by side, which they never do in a value.

## Main definitions

* `Piece.Spells`, `Quoted` — all spellings of a quoted text.
* `Token.Spells`, `Layout` — all spellings of a token, and all layouts of a list of tokens.
* `Separated` — no two numerals side by side.

## Main results

* `Piece.scan_append` — a quoted text is read back from any of its spellings.
* `Token.next?_append` — so is every token, if a numeral is not continued.
* `Layout.scan_eq` — the tokens are read back from any layout of them.
-/

namespace Skirmish.Json

/-! ### Quoted texts -/

/-- The spellings of a piece of a quoted text. -/
inductive Piece.Spells : Piece → List Char → Prop
  | plain {c : Char} : 0x20 ≤ c.toNat → c ≠ '"' → c ≠ '\\' → Spells (.char c) [c]
  | short {c d : Char} : Piece.escaped? c = some d → Spells (.char d) ['\\', c]
  | unit {a b c d : Char} {u : Nat} : Piece.unitOf? a b c d = some u →
    Spells (.unit u) ['\\', 'u', a, b, c, d]

/-- The spellings of a quoted text, without its quotes. -/
inductive Quoted : List Piece → List Char → Prop
  | nil : Quoted [] []
  | cons {p : Piece} {ps : List Piece} {cs rest : List Char} : p.Spells cs → Quoted ps rest →
    Quoted (p :: ps) (cs ++ rest)

namespace Piece

/-- A piece is read from the front of a quoted text. -/
theorem scan_cons {p : Piece} {ps : List Piece} {cs rest rest' : List Char} (h : p.Spells cs)
    (scanned : scan rest = some (ps, rest')) : scan (cs ++ rest) = some (p :: ps, rest') := by
  cases h with
  | @plain c printable noQuote noSlash =>
    have isPlain : ¬ (c.toNat < 0x20 ∨ c = '\\') := not_or.mpr ⟨Nat.not_lt.mpr printable, noSlash⟩
    rw [List.singleton_append, scan, if_neg isPlain, scanned]
    · rfl
    · exact noQuote
    · exact fun _ _ _ _ _ slash _ => noSlash slash
    · exact fun _ _ slash _ => noSlash slash
  | @short c d escape =>
    have other : c ≠ 'u' := by
      rintro rfl
      cases escape
    rw [List.cons_append, List.singleton_append, scan, escape, scanned]
    · rfl
    · exact fun _ _ _ _ _ unit _ => other unit
  | unit code =>
    rw [List.cons_append, List.cons_append, List.cons_append, List.cons_append, List.cons_append,
      List.cons_append, List.nil_append, scan, code, scanned]
    rfl

/-- A quoted text is read back, however it is spelled. -/
theorem scan_append {ps : List Piece} {cs rest : List Char} (h : Quoted ps cs) :
    scan (cs ++ '"' :: rest) = some (ps, rest) := by
  induction h with
  | nil => rfl
  | cons first _ ih =>
    rw [List.append_assoc]
    exact scan_cons first ih

end Piece

/-! ### Tokens -/

namespace Token

/-- The spellings of a token. -/
inductive Spells : Token → List Char → Prop
  | openList : Spells .openList ['[']
  | closeList : Spells .closeList [']']
  | openRecord : Spells .openRecord ['{']
  | closeRecord : Spells .closeRecord ['}']
  | comma : Spells .comma [',']
  | colon : Spells .colon [':']
  | null : Spells .null ['n', 'u', 'l', 'l']
  | isTrue : Spells (.bool true) ['t', 'r', 'u', 'e']
  | isFalse : Spells (.bool false) ['f', 'a', 'l', 's', 'e']
  | number {n : Numeral} {cs : List Char} : n.Spells cs → Spells (.number n) cs
  | text {ps : List Piece} {cs : List Char} : Quoted ps cs →
    Spells (.text ps) ('"' :: (cs ++ ['"']))

def isNumber : Token → Bool
  | number _ => true
  | _ => false

end Token

theorem Numeral.Spells.exists_cons {n : Numeral} {cs : List Char} (h : n.Spells cs) :
    ∃ c rest, cs = c :: rest ∧ (c = '-' ∨ Numeral.isDigit c = true) := by
  obtain ⟨whole, digits, -, -⟩ := h
  cases n.negative with
  | true => exact ⟨'-', _, rfl, .inl rfl⟩
  | false =>
    cases eq : n.whole with
    | nil =>
      rw [eq] at whole
      cases whole
    | cons d ds =>
      have digit : d < 10 := digits d (eq ▸ List.mem_cons_self)
      exact ⟨Numeral.digitChar d, _, rfl, .inr (Numeral.isDigit_digitChar digit)⟩

namespace Token

variable {t : Token} {ts : List Token} {cs rest : List Char}

/-- No character at the front of a numeral is a blank or belongs to another token. -/
theorem next?_of_front {c : Char} (front : c = '-' ∨ Numeral.isDigit c = true) :
    isBlank c = false ∧
      next? (c :: cs) = (Numeral.scan (c :: cs)).map fun (n, rest) => (.number n, rest) := by
  have other {d : Char} (minus : d ≠ '-') (digit : Numeral.isDigit d = false) : c ≠ d := by
    rintro rfl
    rcases front with front | front
    · exact minus front
    · exact Bool.noConfusion (digit.symm.trans front)
  constructor
  · simp only [isBlank, Bool.or_eq_false_iff, beq_eq_false_iff_ne]
    exact ⟨⟨⟨other (by decide) rfl, other (by decide) rfl⟩, other (by decide) rfl⟩,
      other (by decide) rfl⟩
  · unfold next?
    split
    case h_11 => rfl
    all_goals
      rename_i eq
      exact absurd (List.cons.inj eq).1 (other (by decide) rfl)

/-- A token starts with no blank, and only a numeral starts with what could continue a numeral. -/
theorem Spells.exists_cons (h : t.Spells cs) : ∃ c cs', cs = c :: cs' ∧ isBlank c = false ∧
    (t.isNumber = false → ∀ rest, Numeral.Stops (c :: rest)) := by
  cases h with
  | number spells =>
    obtain ⟨c, cs', rfl, front⟩ := spells.exists_cons
    have first : isBlank c = false ∧ next? (c :: cs') = _ := next?_of_front front
    exact ⟨c, cs', rfl, first.1, nofun⟩
  | _ =>
    refine ⟨_, _, rfl, rfl, ?_⟩
    rintro - rest c ⟨⟩
    decide

/-- A token is read back from the front of a text, however it is spelled. -/
theorem next?_append (h : t.Spells cs) (stop : t.isNumber = true → Numeral.Stops rest) :
    next? (cs ++ rest) = some (t, rest) := by
  cases h with
  | number spells =>
    obtain ⟨c, cs', rfl, front⟩ := spells.exists_cons
    rw [List.cons_append, (next?_of_front front).2, ← List.cons_append,
      Numeral.scan_append spells (stop rfl)]
    rfl
  | text quoted =>
    rw [List.cons_append, List.append_assoc, List.singleton_append, next?,
      Piece.scan_append quoted]
    rfl
  | _ => rfl

/-- One token of a text, with the blanks in front of it. -/
theorem scan_cons {c : Char} {front : List Char} (blanks : cs.dropWhile isBlank = c :: front)
    (token : next? (c :: front) = some (t, rest)) : scan cs = t :: scan rest := by
  rw [scan]
  split
  case h_1 none =>
    rw [blanks] at none
    cases none
  case h_2 c' front' same =>
    obtain ⟨rfl, rfl⟩ := List.cons.inj (blanks.symm.trans same)
    split
    case h_1 t' rest' found =>
      obtain ⟨rfl, rfl⟩ := Prod.mk.inj (Option.some.inj (token.symm.trans found))
      rfl
    case h_2 none =>
      rw [token] at none
      cases none

theorem scan_blanks (blanks : ∀ c ∈ cs, isBlank c = true) : scan cs = [] := by
  rw [scan]
  split
  case h_1 => rfl
  case h_2 c front eq =>
    rw [List.dropWhile_eq_nil_iff.mpr blanks] at eq
    cases eq

end Token

/-! ### Layouts -/

/-- The layouts of a list of tokens: blanks stand in front of each token and at the end. -/
inductive Layout : List Token → List Char → Prop
  | nil {blanks : List Char} : (∀ c ∈ blanks, Token.isBlank c = true) → Layout [] blanks
  | cons {blanks : List Char} {t : Token} {cs : List Char} {ts : List Token} {rest : List Char} :
    (∀ c ∈ blanks, Token.isBlank c = true) → t.Spells cs → Layout ts rest →
    Layout (t :: ts) (blanks ++ (cs ++ rest))

/-- No two numerals stand side by side. -/
def Separated (ts : List Token) : Prop :=
  ts.IsChain fun t t' => t.isNumber = true → t'.isNumber = false

variable {t : Token} {ts : List Token} {cs : List Char}

theorem Token.stops_of_isBlank {c : Char} (blank : Token.isBlank c = true) (rest : List Char) :
    Numeral.Stops (c :: rest) := by
  simp only [Token.isBlank, Bool.or_eq_true, beq_iff_eq] at blank
  rintro c' ⟨⟩
  rcases blank with ((rfl | rfl) | rfl) | rfl <;> decide

/-- A layout of tokens that start with no numeral does not continue a numeral. -/
theorem Layout.stops (h : Layout ts cs) (number : ∀ t ∈ ts.head?, t.isNumber = false) :
    Numeral.Stops cs := by
  cases h with
  | nil isBlank =>
    cases cs with
    | nil => exact nofun
    | cons c cs => exact Token.stops_of_isBlank (isBlank c List.mem_cons_self) cs
  | @cons blanks t cs ts rest isBlank spells =>
    cases blanks with
    | nil =>
      obtain ⟨c, cs', rfl, -, stops⟩ := spells.exists_cons
      exact stops (number t rfl) (cs' ++ rest)
    | cons c blanks => exact Token.stops_of_isBlank (isBlank c List.mem_cons_self) _

/-- The tokens are read back from every layout of them. -/
theorem Layout.scan_eq (h : Layout ts cs) (separated : Separated ts) : Token.scan cs = ts := by
  induction h with
  | nil blanks => exact Token.scan_blanks blanks
  | @cons blanks t cs ts rest isBlank spells layout ih =>
    obtain ⟨apart, separated⟩ := List.isChain_cons.mp separated
    have token : Token.next? (cs ++ rest) = some (t, rest) :=
      Token.next?_append spells fun number => layout.stops fun t' first => apart t' first number
    obtain ⟨c, cs', rfl, noBlank, -⟩ := spells.exists_cons
    have front : (blanks ++ (c :: cs' ++ rest)).dropWhile Token.isBlank = c :: (cs' ++ rest) := by
      rw [List.dropWhile_append_of_pos isBlank, List.cons_append,
        List.dropWhile_cons_of_neg (Bool.not_eq_true _ ▸ noBlank)]
    rw [Token.scan_cons front token, ih separated]

end Skirmish.Json
