import Skirmish.Json.Reader
import Skirmish.Json.Value
import Skirmish.Proofs.Json.Layout

/-!
# Trees of a text

What a text holds, as it is written: numerals by their digits, texts by their pieces, and the members
of records in their order, whether a key comes once or several times.  A value that is printed, on
one line or on several, is laid out as such a tree.

## Main definitions

* `Tree`, `Tree.tokens` — what a text holds, and its tokens.
* `Value.tree` — the tree that a value is printed as.

## Main results

* `Tree.separated_tokens` — no two numerals stand side by side in a tree.
* `Tree.skip_tokens` — any tree is passed over as a whole.
* `Value.layout_compact`, `Value.layout_pretty` — printed values are laid out.
-/

namespace Skirmish.Json

/-- What a text holds. -/
inductive Tree where
  | null
  | bool (b : Bool)
  | number (n : Numeral)
  | text (pieces : List Piece)
  | list (items : List Tree)
  | record (members : List (List Piece × Tree))

namespace Tree

/-! ### Tokens -/

mutual

/-- The tokens of a tree. -/
def tokens : Tree → List Token
  | null => [.null]
  | bool b => [.bool b]
  | number n => [.number n]
  | text pieces => [.text pieces]
  | list [] => [.openList, .closeList]
  | list (t :: ts) => .openList :: (tokens t ++ (furtherItems ts ++ [.closeList]))
  | record [] => [.openRecord, .closeRecord]
  | record ((key, t) :: ms) =>
    .openRecord :: .text key :: .colon :: (tokens t ++ (furtherMembers ms ++ [.closeRecord]))

/-- The tokens of further items, each behind a comma. -/
def furtherItems : List Tree → List Token
  | [] => []
  | t :: ts => .comma :: (tokens t ++ furtherItems ts)

/-- The tokens of further members, each behind a comma. -/
def furtherMembers : List (List Piece × Tree) → List Token
  | [] => []
  | (key, t) :: ms => .comma :: .text key :: .colon :: (tokens t ++ furtherMembers ms)

end

/-- Tokens that may stand behind a numeral. -/
def Behind (ts : List Token) : Prop := Separated ts ∧ ∀ t ∈ ts.head?, t.isNumber = false

theorem behind_cons {t : Token} {ts : List Token} (other : t.isNumber = false)
    (separated : Separated ts) : Behind (t :: ts) := by
  refine ⟨List.isChain_cons.mpr ⟨?_, separated⟩, ?_⟩
  · intro t' _ number
    exact Bool.noConfusion (other.symm.trans number)
  · rintro t' ⟨⟩
    exact other

mutual

/-- No numeral stands beside another one, within a tree and behind it. -/
theorem separated_append (t : Tree) {rest : List Token} (behind : Behind rest) :
    Separated (t.tokens ++ rest) := by
  match t with
  | null | bool _ | text _ => exact (behind_cons rfl behind.1).1
  | number n => exact List.isChain_cons.mpr ⟨fun t' first _ => behind.2 t' first, behind.1⟩
  | list [] => exact (behind_cons rfl (behind_cons rfl behind.1).1).1
  | list (t :: ts) =>
    rw [tokens, List.cons_append, List.append_assoc, List.append_assoc]
    have close : Behind ([Token.closeList] ++ rest) := behind_cons rfl behind.1
    exact (behind_cons rfl (separated_append t (behind_furtherItems ts close))).1
  | record [] => exact (behind_cons rfl (behind_cons rfl behind.1).1).1
  | record ((key, t) :: ms) =>
    rw [tokens, List.cons_append, List.cons_append, List.cons_append, List.append_assoc,
      List.append_assoc]
    have close : Behind ([Token.closeRecord] ++ rest) := behind_cons rfl behind.1
    have inner := separated_append t (behind_furtherMembers ms close)
    exact (behind_cons rfl (behind_cons rfl (behind_cons rfl inner).1).1).1

theorem behind_furtherItems (ts : List Tree) {rest : List Token} (behind : Behind rest) :
    Behind (furtherItems ts ++ rest) := by
  match ts with
  | [] => exact behind
  | t :: ts =>
    rw [furtherItems, List.cons_append, List.append_assoc]
    exact behind_cons rfl (separated_append t (behind_furtherItems ts behind))

theorem behind_furtherMembers (ms : List (List Piece × Tree)) {rest : List Token}
    (behind : Behind rest) : Behind (furtherMembers ms ++ rest) := by
  match ms with
  | [] => exact behind
  | (key, t) :: ms =>
    rw [furtherMembers, List.cons_append, List.cons_append, List.cons_append, List.append_assoc]
    have inner := separated_append t (behind_furtherMembers ms behind)
    exact behind_cons rfl (behind_cons rfl (behind_cons rfl inner).1).1

end

theorem separated_tokens (t : Tree) : Separated t.tokens := by
  have alone : Separated (t.tokens ++ []) := t.separated_append ⟨List.IsChain.nil, nofun⟩
  rwa [List.append_nil] at alone

/-! ### Skipping -/

/-- What comes behind a value that has been skipped. -/
def skipped (opened : List Bracket) (rest : List Token) : Except Problem (List Token) :=
  if opened = [] then .ok rest else skipRest .next opened rest

/-- The first item of a list starts like any value. -/
theorem skipRest_first (t : Tree) (opened : List Bracket) (rest : List Token) :
    skipRest .first (.list :: opened) (t.tokens ++ rest)
      = skipRest .value (.list :: opened) (t.tokens ++ rest) := by
  match t with
  | null | bool _ | number _ | text _ => rfl
  | list [] | list (_ :: _) => rfl
  | record [] | record (_ :: _) => rfl

mutual

/-- A tree is skipped as a whole, within any brackets. -/
theorem skipRest_value (t : Tree) (opened : List Bracket) (rest : List Token) :
    skipRest .value opened (t.tokens ++ rest) = skipped opened rest := by
  match t with
  | null | bool _ | number _ | text _ => rfl
  | list [] => rfl
  | list (t :: ts) =>
    rw [tokens, List.cons_append, List.append_assoc, List.append_assoc, List.singleton_append]
    calc skipRest .value opened (.openList :: (t.tokens ++ (furtherItems ts ++ .closeList :: rest)))
        = skipRest .first (.list :: opened) (t.tokens ++ (furtherItems ts ++ .closeList :: rest)) :=
          rfl
      _ = skipRest .next (.list :: opened) (furtherItems ts ++ .closeList :: rest) := by
          rw [skipRest_first, skipRest_value t]
          rfl
      _ = skipped opened rest := skipRest_furtherItems ts opened rest
  | record [] => rfl
  | record ((key, t) :: ms) =>
    rw [tokens, List.cons_append, List.cons_append, List.cons_append, List.append_assoc,
      List.append_assoc, List.singleton_append]
    calc skipRest .value opened (.openRecord :: .text key :: .colon
          :: (t.tokens ++ (furtherMembers ms ++ .closeRecord :: rest)))
        = skipRest .value (.record :: opened)
          (t.tokens ++ (furtherMembers ms ++ .closeRecord :: rest)) := rfl
      _ = skipRest .next (.record :: opened) (furtherMembers ms ++ .closeRecord :: rest) := by
          rw [skipRest_value t]
          rfl
      _ = skipped opened rest := skipRest_furtherMembers ms opened rest

theorem skipRest_furtherItems (ts : List Tree) (opened : List Bracket) (rest : List Token) :
    skipRest .next (.list :: opened) (furtherItems ts ++ .closeList :: rest)
      = skipped opened rest := by
  match ts with
  | [] => rfl
  | t :: ts =>
    rw [furtherItems, List.cons_append, List.append_assoc]
    calc skipRest .next (.list :: opened)
          (.comma :: (t.tokens ++ (furtherItems ts ++ .closeList :: rest)))
        = skipRest .value (.list :: opened) (t.tokens ++ (furtherItems ts ++ .closeList :: rest)) :=
          rfl
      _ = skipRest .next (.list :: opened) (furtherItems ts ++ .closeList :: rest) := by
          rw [skipRest_value t]
          rfl
      _ = skipped opened rest := skipRest_furtherItems ts opened rest

theorem skipRest_furtherMembers (ms : List (List Piece × Tree)) (opened : List Bracket)
    (rest : List Token) :
    skipRest .next (.record :: opened) (furtherMembers ms ++ .closeRecord :: rest)
      = skipped opened rest := by
  match ms with
  | [] => rfl
  | (key, t) :: ms =>
    rw [furtherMembers, List.cons_append, List.cons_append, List.cons_append, List.append_assoc]
    calc skipRest .next (.record :: opened) (.comma :: .text key :: .colon
          :: (t.tokens ++ (furtherMembers ms ++ .closeRecord :: rest)))
        = skipRest .value (.record :: opened)
          (t.tokens ++ (furtherMembers ms ++ .closeRecord :: rest)) := rfl
      _ = skipRest .next (.record :: opened) (furtherMembers ms ++ .closeRecord :: rest) := by
          rw [skipRest_value t]
          rfl
      _ = skipped opened rest := skipRest_furtherMembers ms opened rest

end

/-- Any tree is passed over, whatever is in it. -/
theorem skip_tokens (t : Tree) (rest : List Token) : skip (t.tokens ++ rest) = .ok rest :=
  t.skipRest_value [] rest

end Tree

/-! ### Printed texts -/

namespace Piece

/-- The piece by which a character is printed. -/
def ofChar (c : Char) : Piece :=
  if c.toNat < 0x20 ∧ c ≠ '\x08' ∧ c ≠ '\x0c' ∧ c ≠ '\n' ∧ c ≠ '\r' ∧ c ≠ '\t' then .unit c.toNat
  else .char c

/-- A character is spelled by its escape. -/
theorem spells_escape (c : Char) : (ofChar c).Spells (Value.escape c) := by
  unfold Value.escape
  split
  case h_8 noQuote noSlash b f n r t =>
    split
    case isTrue control =>
      have other : c ≠ '\x08' ∧ c ≠ '\x0c' ∧ c ≠ '\n' ∧ c ≠ '\r' ∧ c ≠ '\t' := ⟨b, f, n, r, t⟩
      rw [ofChar, if_pos ⟨control, other⟩]
      have digits : ∀ n < 0x20, unitOf? '0' '0' (n / 16).digitChar (n % 16).digitChar = some n := by
        decide
      exact .unit (digits _ control)
    case isFalse printable =>
      rw [ofChar, if_neg fun h => printable h.1]
      exact .plain (Nat.not_lt.mp printable) noQuote noSlash
  all_goals exact .short rfl

theorem decode_cons_ofChar (c : Char) (ps : List Piece) :
    decode (ofChar c :: ps) = (decode ps).map (c :: ·) := by
  unfold ofChar
  split
  case isTrue control =>
    have noLead : isLead c.toNat = false := by
      rw [isLead, decide_eq_false (by omega), Bool.false_and]
    have noTrail : isTrail c.toNat = false := by
      rw [isTrail, decide_eq_false (by omega), Bool.false_and]
    match ps with
    | [] | .unit _ :: _ | .char _ :: _ =>
      simp only [decode, noLead, noTrail, Char.ofNat_toNat, Bool.or_self, Bool.false_eq_true,
        if_false]
  case isFalse => rfl

/-- What is printed stands for the string that was printed. -/
theorem decode_map_ofChar (cs : List Char) : decode (cs.map ofChar) = some cs := by
  induction cs with
  | nil => rfl
  | cons c cs ih => rw [List.map_cons, decode_cons_ofChar, ih, Option.map_some]

theorem quoted_escape (cs : List Char) : Quoted (cs.map ofChar) (cs.flatMap Value.escape) := by
  induction cs with
  | nil => exact .nil
  | cons c cs ih => exact .cons (spells_escape c) ih

end Piece

/-! ### Printed values -/

theorem Layout.blanks {blanks cs : List Char} {ts : List Token} (h : Layout ts cs)
    (isBlank : ∀ c ∈ blanks, Token.isBlank c = true) : Layout ts (blanks ++ cs) := by
  have all {more : List Char} (isBlank' : ∀ c ∈ more, Token.isBlank c = true) :
      ∀ c ∈ blanks ++ more, Token.isBlank c = true := by
    intro c mem
    exact (List.mem_append.mp mem).elim (isBlank c) (isBlank' c)
  cases h with
  | nil isBlank' => exact .nil (all isBlank')
  | cons isBlank' spells rest =>
    rw [← List.append_assoc]
    exact .cons (all isBlank') spells rest

/-- A token in front of others, without blanks. -/
theorem Layout.token {t : Token} {cs rest : List Char} {ts : List Token} (spells : t.Spells cs)
    (h : Layout ts rest) : Layout (t :: ts) (cs ++ rest) :=
  show Layout (t :: ts) ([] ++ (cs ++ rest)) from .cons nofun spells h

/-- A token of one character. -/
theorem Layout.mark {t : Token} {c : Char} {rest : List Char} {ts : List Token}
    (spells : t.Spells [c]) (h : Layout ts rest) : Layout (t :: ts) (c :: rest) :=
  h.token spells

namespace Value

mutual

/-- The tree that a value is printed as. -/
def tree : Value → Tree
  | null => .null
  | bool b => .bool b
  | number n => .number n
  | text s => .text (s.toList.map Piece.ofChar)
  | list items => .list (trees items)
  | record fields => .record (members fields)

/-- The trees that the items of a list are printed as. -/
def trees : List Value → List Tree
  | [] => []
  | v :: vs => tree v :: trees vs

/-- The members that the fields of a record are printed as. -/
def members : List (String × Value) → List (List Piece × Tree)
  | [] => []
  | (key, v) :: fields => (key.toList.map Piece.ofChar, tree v) :: members fields

end

theorem layout_quote (s : String) {rest : List Char} {ts : List Token} (h : Layout ts rest) :
    Layout (.text (s.toList.map Piece.ofChar) :: ts) (quote s ++ rest) :=
  .token (.text (Piece.quoted_escape s.toList)) h

mutual

/-- The numerals in a value are spelled by what is printed of them. -/
def IsPrintable : Value → Prop
  | number n => n.Spells n.text
  | list items => ArePrintable items
  | record fields => HavePrintable fields
  | _ => True

def ArePrintable : List Value → Prop
  | [] => True
  | v :: vs => IsPrintable v ∧ ArePrintable vs

def HavePrintable : List (String × Value) → Prop
  | [] => True
  | (_, v) :: fields => IsPrintable v ∧ HavePrintable fields

end

theorem layout_atom {v : Value} {rest : List Char} {ts : List Token} (h : Layout ts rest)
    (printable : v.IsPrintable) (atomic : ∀ items, v ≠ .list items)
    (atomic' : ∀ fields, v ≠ .record fields) : Layout (v.tree.tokens ++ ts) (v.atom ++ rest) := by
  match v with
  | null => exact .token .null h
  | bool true => exact .token .isTrue h
  | bool false => exact .token .isFalse h
  | number n =>
    rw [IsPrintable] at printable
    rw [tree]
    exact .token (.number printable) h
  | text s =>
    rw [tree]
    exact layout_quote s h
  | list items => exact absurd rfl (atomic items)
  | record fields => exact absurd rfl (atomic' fields)

theorem compactItems_cons (v : Value) (vs : List Value) :
    compactItems (v :: vs) = v.compactChars ++ vs.flatMap fun v => ',' :: v.compactChars := by
  induction vs generalizing v with
  | nil => rw [compactItems, List.flatMap_nil, List.append_nil]
  | cons v' vs ih =>
    rw [compactItems, ih, List.flatMap_cons, List.cons_append]
    nofun

theorem compactFields_cons (key : String) (v : Value) (fields : List (String × Value)) :
    compactFields ((key, v) :: fields) = quote key ++ (':' :: v.compactChars
      ++ fields.flatMap fun f => ',' :: (quote f.1 ++ ':' :: f.2.compactChars)) := by
  induction fields generalizing key v with
  | nil => rw [compactFields, List.flatMap_nil, List.append_nil]
  | cons f fields ih =>
    obtain ⟨key', v'⟩ := f
    rw [compactFields, ih]
    · simp only [List.flatMap_cons, List.cons_append, List.append_assoc]
    · nofun

mutual

/-- What is printed on one line is laid out, in front of anything. -/
theorem layout_compactChars (v : Value) (printable : v.IsPrintable) {rest : List Char}
    {ts : List Token} (h : Layout ts rest) :
    Layout (v.tree.tokens ++ ts) (v.compactChars ++ rest) := by
  match v with
  | list [] => exact .mark .openList (.mark .closeList h)
  | list (v :: vs) =>
    rw [IsPrintable, ArePrintable] at printable
    simp only [tree, trees, Tree.tokens, compactChars, compactItems_cons, List.cons_append,
      List.append_assoc, List.nil_append]
    have further := layout_compactItems vs printable.2 (.mark .closeList h)
    exact .mark .openList (layout_compactChars v printable.1 further)
  | record [] => exact .mark .openRecord (.mark .closeRecord h)
  | record ((key, v) :: fields) =>
    rw [IsPrintable, HavePrintable] at printable
    simp only [tree, members, Tree.tokens, compactChars, compactFields_cons, List.cons_append,
      List.append_assoc, List.nil_append]
    have further := layout_compactFields fields printable.2 (.mark .closeRecord h)
    exact .mark .openRecord
      (layout_quote key (.mark .colon (layout_compactChars v printable.1 further)))
  | null | bool _ | number _ | text _ =>
    rw [compactChars]
    · exact layout_atom h printable nofun nofun
    all_goals nofun

theorem layout_compactItems (vs : List Value) (printables : ArePrintable vs) {rest : List Char}
    {ts : List Token} (h : Layout ts rest) :
    Layout (Tree.furtherItems (trees vs) ++ ts)
      ((vs.flatMap fun v => ',' :: v.compactChars) ++ rest) := by
  match vs with
  | [] => exact h
  | v :: vs =>
    rw [ArePrintable] at printables
    simp only [trees, Tree.furtherItems, List.flatMap_cons, List.cons_append, List.append_assoc]
    exact .mark .comma
      (layout_compactChars v printables.1 (layout_compactItems vs printables.2 h))

theorem layout_compactFields (fields : List (String × Value)) (printables : HavePrintable fields)
    {rest : List Char} {ts : List Token} (h : Layout ts rest) :
    Layout (Tree.furtherMembers (members fields) ++ ts)
      ((fields.flatMap fun f => ',' :: (quote f.1 ++ ':' :: f.2.compactChars)) ++ rest) := by
  match fields with
  | [] => exact h
  | (key, v) :: fields =>
    rw [HavePrintable] at printables
    simp only [members, Tree.furtherMembers, List.flatMap_cons, List.cons_append,
      List.append_assoc]
    have further := layout_compactFields fields printables.2 h
    exact .mark .comma
      (layout_quote key (.mark .colon (layout_compactChars v printables.1 further)))

end

/-! ### Indented values -/

theorem isBlank_of_mem_newLine {depth : Nat} {c : Char} (mem : c ∈ newLine depth) :
    Token.isBlank c = true := by
  rcases List.mem_cons.mp mem with rfl | mem
  · rfl
  · rw [List.eq_of_mem_replicate mem]
    rfl

theorem layout_newLine (depth : Nat) {rest : List Char} {ts : List Token} (h : Layout ts rest) :
    Layout ts (newLine depth ++ rest) :=
  h.blanks fun _ => isBlank_of_mem_newLine

/-- A key and its colon, with a blank behind it. -/
theorem layout_prettyMember (key : String) {rest : List Char} {ts : List Token}
    (h : Layout ts rest) :
    Layout (.text (key.toList.map Piece.ofChar) :: .colon :: ts)
      (quote key ++ ':' :: ' ' :: rest) := by
  have blank : ∀ c ∈ [' '], Token.isBlank c = true := by
    rintro c mem
    rw [List.mem_singleton.mp mem]
    rfl
  have spaced : Layout ts ([' '] ++ rest) := h.blanks blank
  exact layout_quote key (.mark .colon spaced)

mutual

/-- What is printed on several lines is laid out, in front of anything. -/
theorem layout_prettyChars (depth : Nat) (v : Value) (printable : v.IsPrintable)
    {rest : List Char} {ts : List Token} (h : Layout ts rest) :
    Layout (v.tree.tokens ++ ts) (v.prettyChars depth ++ rest) := by
  match v with
  | list [] => exact .mark .openList (.mark .closeList h)
  | list (v :: vs) =>
    rw [IsPrintable, ArePrintable] at printable
    simp only [tree, trees, Tree.tokens, prettyChars, List.cons_append, List.append_assoc,
      List.nil_append]
    have close := layout_newLine depth (.mark .closeList h)
    have further := layout_prettyItems (depth + 1) vs printable.2 close
    exact .mark .openList
      (layout_newLine (depth + 1) (layout_prettyChars (depth + 1) v printable.1 further))
  | record [] => exact .mark .openRecord (.mark .closeRecord h)
  | record ((key, v) :: fields) =>
    rw [IsPrintable, HavePrintable] at printable
    simp only [tree, members, Tree.tokens, prettyChars, List.cons_append, List.append_assoc,
      List.nil_append]
    have close := layout_newLine depth (.mark .closeRecord h)
    have further := layout_prettyFields (depth + 1) fields printable.2 close
    have first := layout_prettyMember key (layout_prettyChars (depth + 1) v printable.1 further)
    exact .mark .openRecord (layout_newLine (depth + 1) first)
  | null | bool _ | number _ | text _ =>
    rw [prettyChars]
    · exact layout_atom h printable nofun nofun
    all_goals nofun

theorem layout_prettyItems (depth : Nat) (vs : List Value) (printables : ArePrintable vs)
    {rest : List Char} {ts : List Token} (h : Layout ts rest) :
    Layout (Tree.furtherItems (trees vs) ++ ts) (prettyItems depth vs ++ rest) := by
  match vs with
  | [] => exact h
  | v :: vs =>
    rw [ArePrintable] at printables
    simp only [trees, Tree.furtherItems, prettyItems, List.cons_append, List.append_assoc]
    have further := layout_prettyItems depth vs printables.2 h
    exact .mark .comma (layout_newLine depth (layout_prettyChars depth v printables.1 further))

theorem layout_prettyFields (depth : Nat) (fields : List (String × Value))
    (printables : HavePrintable fields) {rest : List Char} {ts : List Token} (h : Layout ts rest) :
    Layout (Tree.furtherMembers (members fields) ++ ts) (prettyFields depth fields ++ rest) := by
  match fields with
  | [] => exact h
  | (key, v) :: fields =>
    rw [HavePrintable] at printables
    simp only [members, Tree.furtherMembers, prettyFields, List.cons_append, List.append_assoc,
      List.nil_append]
    have further := layout_prettyFields depth fields printables.2 h
    have first := layout_prettyMember key (layout_prettyChars depth v printables.1 further)
    exact .mark .comma (layout_newLine depth first)

end

/-- What is printed on one line is laid out. -/
theorem layout_compact {v : Value} (printable : v.IsPrintable) :
    Layout v.tree.tokens v.compactChars := by
  have nothing : Layout [] [] := .nil nofun
  have layout := layout_compactChars v printable nothing
  rwa [List.append_nil, List.append_nil] at layout

/-- What is printed on several lines is laid out. -/
theorem layout_pretty {v : Value} (printable : v.IsPrintable) :
    Layout v.tree.tokens (v.prettyChars 0) := by
  have nothing : Layout [] [] := .nil nofun
  have layout := layout_prettyChars 0 v printable nothing
  rwa [List.append_nil, List.append_nil] at layout

end Value

end Skirmish.Json
