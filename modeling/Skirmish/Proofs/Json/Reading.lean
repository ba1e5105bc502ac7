import Skirmish.Json.Codec
import Skirmish.Proofs.Checked
import Skirmish.Proofs.Json.Tree

/-!
# Reading trees

A reader that is put in front of a tree either takes the whole of it or ends in a problem, and what
comes behind the tree does not matter.  So a reader is described by what it answers on trees, and a
text by the tree that it is a layout of.

## Main definitions

* `Reader.Answers` — what a reader makes of a tree.
* `RecordShape.take` — one member of a record, taken into a draft.
* `Codec.IsLawful` — values are read back from what they are printed as.

## Main results

* `answers_readInteger`, `answers_readVariant`, `answers_readPair` — readers of single values.
* `RecordShape.answers_readRecord` — records, member by member.
* `toOption_readText` — what a text holds, in any layout.
* `Codec.IsLawful.read_write`, `Codec.IsLawful.read_writePretty` — printed values are read back.
-/

namespace Skirmish

theorem Checked.toOption_bind {ε α β : Type} (x : Except ε α) (f : α → Except ε β) :
    (x >>= f).toOption = x.toOption.bind fun a => (f a).toOption := by
  cases x <;> rfl

namespace Json

variable {α β σ : Type}

/-! ### Answers -/

/-- What a reader makes of a tree: a value, or nothing.  It takes the tree as a whole and leaves what
is behind it. -/
def Reader.Answers (r : Reader α) (t : Tree) (o : Option α) : Prop :=
  ∀ rest, (r (t.tokens ++ rest)).toOption = o.map fun a => (a, rest)

/-- What a reader makes of a tree with nothing behind it. -/
def Reader.answer (r : Reader α) (t : Tree) : Option α := (r t.tokens).toOption.map Prod.fst

theorem Reader.Answers.answer_eq {r : Reader α} {t : Tree} {o : Option α} (h : r.Answers t o) :
    r.answer t = o := by
  have alone := h []
  rw [List.append_nil] at alone
  rw [answer, alone, Option.map_map]
  cases o <;> rfl

theorem Reader.Answers.map {r : Reader α} {t : Tree} {o : Option α} (h : r.Answers t o)
    (f : α → β) : (r.map f).Answers t (o.map f) := by
  intro rest
  rw [Reader.map, Checked.toOption_bind, h rest]
  cases o <;> rfl

theorem toOption_wrongType (expected : String) (ts : List Token) :
    (wrongType expected ts : Except Problem α).toOption = none := by
  rw [wrongType, Checked.toOption_bind]
  cases found ts <;> rfl

/-! ### Integers -/

/-- The integer that a tree stands for. -/
def Tree.integer? : Tree → Option Int
  | number n =>
    match n.number with
    | some (.integer i) => some i
    | _ => none
  | _ => none

/-- The integers of a type. -/
def IntegerType.Admits (type : IntegerType) (i : Int) : Prop := type.least ≤ i ∧ i ≤ type.greatest

instance (type : IntegerType) (i : Int) : Decidable (type.Admits i) :=
  inferInstanceAs (Decidable (_ ∧ _))

theorem answers_readInteger (type : IntegerType) (t : Tree) :
    (readInteger type).Answers t (t.integer?.filter fun i => type.Admits i) := by
  intro rest
  match t with
  | .number n =>
    rw [Tree.tokens, List.singleton_append, readInteger, Tree.integer?]
    cases n.number with
    | none => rfl
    | some value =>
      cases value with
      | real x => rfl
      | integer i =>
        by_cases admits : type.least ≤ i ∧ i ≤ type.greatest
        · have isSome : (some i).filter (fun i => decide (type.Admits i)) = some i :=
            if_pos (decide_eq_true admits)
          dsimp only
          rw [if_pos admits, isSome]
          rfl
        · have isNone : (some i).filter (fun i => decide (type.Admits i)) = none :=
            if_neg fun within => admits (of_decide_eq_true within)
          dsimp only
          rw [if_neg admits, isNone]
          rfl
  | .null | .bool _ | .text _ | .list [] | .list (_ :: _) | .record [] | .record (_ :: _) =>
    exact toOption_wrongType type.name _

/-- The digits of an integer stand for it as far as its type goes. -/
theorem filter_integer?_ofInt {type : IntegerType} (low : -9223372036854775808 ≤ type.least)
    (high : type.greatest < 18446744073709551616) (n : Int) :
    ((Tree.number (.ofInt n)).integer?.filter fun i => type.Admits i)
      = (some n).filter fun i => type.Admits i := by
  rw [Tree.integer?]
  by_cases fits : Numeral.FitsWord n
  · rw [Numeral.number_ofInt fits]
  · have outside : ¬ type.Admits n := by
      unfold IntegerType.Admits
      unfold Numeral.FitsWord at fits
      omega
    have isNone : (some n).filter (fun i => decide (type.Admits i)) = none :=
      if_neg fun within => outside (of_decide_eq_true within)
    rw [Numeral.number_ofInt_eq_real fits, isNone, Numeral.real]
    cases (Numeral.ofInt n).realMagnitude <;> rfl

/-! ### Names -/

/-- The name that a tree stands for: a text, or the only key of a record whose value is null. -/
def Tree.name? : Tree → Option String
  | text pieces => (Piece.decode pieces).map String.ofList
  | record [(key, null)] => (Piece.decode key).map String.ofList
  | _ => none

theorem toOption_textOf (pieces : List Piece) :
    (textOf pieces).toOption = (Piece.decode pieces).map String.ofList := by
  rw [textOf]
  cases Piece.decode pieces <;> rfl

theorem toOption_variantOf (all : List α) (name : α → String) (s : String) :
    (variantOf all name s).toOption = all.find? fun a => name a == s := by
  rw [variantOf]
  cases all.find? fun a => name a == s <;> rfl

/-- What is behind a null that closes a record. -/
def afterNull : List Token → Option (List Token)
  | .null :: .closeRecord :: ts => some ts
  | _ => none

theorem toOption_readVariant_record (all : List α) (name : α → String) (key : List Piece)
    (ts : List Token) :
    (readVariant all name (.openRecord :: .text key :: .colon :: ts)).toOption
      = ((Piece.decode key).map String.ofList).bind fun s =>
        (all.find? fun a => name a == s).bind fun a => (afterNull ts).map fun ts => (a, ts) := by
  rw [readVariant, Checked.toOption_bind, toOption_textOf]
  congr 1
  funext s
  rw [Checked.toOption_bind, toOption_variantOf]
  congr 1
  funext a
  have colon : expect .colon (.colon :: ts) = .ok ts := rfl
  rw [colon, Checked.ok_bind]
  match ts with
  | .null :: ts =>
    dsimp only
    rw [Checked.toOption_bind]
    match ts with
    | [] => rfl
    | t :: ts =>
      rw [expect]
      by_cases close : t = .closeRecord
      · rw [if_pos close, close]
        rfl
      · rw [if_neg close, afterNull]
        · rfl
        · rintro ts' eq
          exact close (List.cons.inj (List.cons.inj eq).2).1
  | [] => rfl
  | .openList :: _ | .closeList :: _ | .openRecord :: _ | .closeRecord :: _ | .comma :: _
  | .colon :: _ | .bool _ :: _ | .number _ :: _ | .text _ :: _ | .bad :: _ =>
    exact toOption_wrongType "unit" _

theorem answers_readVariant (all : List α) (name : α → String) (t : Tree) :
    (readVariant all name).Answers t (t.name?.bind fun s => all.find? fun a => name a == s) := by
  intro rest
  match t with
  | .text pieces =>
    rw [Tree.tokens, List.singleton_append, readVariant, Checked.toOption_bind, toOption_textOf,
      Tree.name?]
    cases Piece.decode pieces with
    | none => rfl
    | some cs =>
      rw [Option.map_some, Option.bind_some, Option.bind_some, Checked.toOption_bind,
        toOption_variantOf]
      cases all.find? fun a => name a == String.ofList cs <;> rfl
  | .record ((key, t) :: ms) =>
    -- nothing but a null that closes the record is taken
    have refuse
        (no : afterNull (t.tokens ++ (Tree.furtherMembers ms ++ [.closeRecord]) ++ rest) = none)
        (other : (Tree.record ((key, t) :: ms)).name? = none) :
        (readVariant all name ((Tree.record ((key, t) :: ms)).tokens ++ rest)).toOption
          = ((Tree.record ((key, t) :: ms)).name?.bind fun s =>
            all.find? fun a => name a == s).map fun a => (a, rest) := by
      rw [other, Tree.tokens, List.cons_append, List.cons_append, List.cons_append,
        toOption_readVariant_record, no]
      cases (Piece.decode key).map String.ofList with
      | none => rfl
      | some s =>
        rw [Option.bind_some]
        cases all.find? fun a => name a == s <;> rfl
    match t, ms with
    | .null, [] =>
      rw [Tree.tokens, List.cons_append, List.cons_append, List.cons_append,
        toOption_readVariant_record, Tree.name?]
      cases (Piece.decode key).map String.ofList with
      | none => rfl
      | some s =>
        rw [Option.bind_some, Option.bind_some]
        cases all.find? fun a => name a == s <;> rfl
    | .null, _ :: _ => exact refuse rfl rfl
    | .bool _, _ | .number _, _ | .text _, _ | .list [], _ | .list (_ :: _), _ | .record [], _
    | .record (_ :: _), _ => exact refuse rfl rfl
  | .null | .bool _ | .number _ | .list [] | .list (_ :: _) | .record [] => rfl

/-! ### Pairs -/

/-- A tree does not start with a closing bracket. -/
theorem Tree.tokens_append_ne (t : Tree) (rest ts : List Token) :
    t.tokens ++ rest ≠ .closeList :: ts := by
  match t with
  | .null | .bool _ | .number _ | .text _ | .list [] | .list (_ :: _) | .record []
  | .record (_ :: _) => nofun

theorem toElement_comma (t : Tree) (rest : List Token) :
    toElement false (.comma :: (t.tokens ++ rest)) = .ok (t.tokens ++ rest) := by
  have comma : expect .comma (.comma :: (t.tokens ++ rest)) = .ok (t.tokens ++ rest) := rfl
  rw [toElement, if_neg (by decide), comma, Checked.ok_bind]
  split
  case h_1 ts eq => exact absurd eq (t.tokens_append_ne rest ts)
  case h_2 => rfl

/-- The second value of a pair, behind the first one. -/
def readSecond (second : Reader β) (a : α) : Reader (α × β)
  | .closeList :: _ => reject (.invalidLength 1 "a tuple of size 2")
  | ts => do
    let ts ← toElement false ts
    let (b, ts) ← second ts
    let ts ← expect .closeList ts
    .ok ((a, b), ts)

theorem readPair_tokens (first : Reader α) (second : Reader β) (t : Tree) (rest : List Token) :
    readPair first second (.openList :: (t.tokens ++ rest))
      = (first (t.tokens ++ rest) >>= fun r => readSecond second r.1 r.2) := by
  unfold readPair
  dsimp only
  split
  case h_1 ts eq => exact absurd eq (t.tokens_append_ne rest ts)
  case h_2 => rfl

/-- Behind the first value of a pair exactly one other value may stand. -/
theorem toOption_readSecond {second : Reader β} {g : Tree → Option β} {ts : List Tree}
    (hg : ∀ t ∈ ts, second.Answers t (g t)) (a : α) (rest : List Token) :
    (readSecond second a (Tree.furtherItems ts ++ .closeList :: rest)).toOption = (match ts with
      | [t] => (g t).map fun b => ((a, b), rest)
      | _ => none) := by
  match ts with
  | [] => rfl
  | t :: ts =>
    rw [Tree.furtherItems, List.cons_append, List.append_assoc]
    unfold readSecond
    dsimp only
    rw [toElement_comma, Checked.ok_bind, Checked.toOption_bind, hg t List.mem_cons_self]
    match ts with
    | [] =>
      dsimp only
      cases g t <;> rfl
    | t' :: ts => cases g t <;> rfl

theorem answers_readPair_list {first : Reader α} {second : Reader β} {a : Tree} {ts : List Tree}
    {o : Option α} {g : Tree → Option β} (hf : first.Answers a o)
    (hg : ∀ t ∈ ts, second.Answers t (g t)) :
    (readPair first second).Answers (.list (a :: ts)) (match ts with
      | [b] => o.bind fun x => (g b).map fun y => (x, y)
      | _ => none) := by
  intro rest
  rw [Tree.tokens, List.cons_append, List.append_assoc, List.append_assoc, List.singleton_append,
    readPair_tokens, Checked.toOption_bind, hf]
  match ts with
  | [] => cases o <;> rfl
  | b :: c :: ts =>
    cases o with
    | none => rfl
    | some x => exact toOption_readSecond hg x rest
  | [b] =>
    dsimp only
    cases o with
    | none => rfl
    | some x =>
      rw [Option.map_some, Option.bind_some, Option.bind_some, toOption_readSecond hg]
      dsimp only
      cases g b <;> rfl

/-- The pair that a tree stands for, given what its two items stand for. -/
def Tree.pair? (f : Tree → Option α) (g : Tree → Option β) : Tree → Option (α × β)
  | list [a, b] => (f a).bind fun x => (g b).map fun y => (x, y)
  | _ => none

theorem Tree.pair?_eq_some_iff {f : Tree → Option α} {g : Tree → Option β} {t : Tree} {p : α × β} :
    t.pair? f g = some p ↔ ∃ a b, t = list [a, b] ∧ f a = some p.1 ∧ g b = some p.2 := by
  constructor
  · intro h
    unfold pair? at h
    split at h
    · next a b =>
      obtain ⟨x, first, rest⟩ := Option.bind_eq_some_iff.mp h
      obtain ⟨y, second, rfl⟩ := Option.map_eq_some_iff.mp rest
      exact ⟨a, b, rfl, first, second⟩
    · cases h
  · rintro ⟨a, b, rfl, first, second⟩
    rw [pair?, first, Option.bind_some, second, Option.map_some]

theorem Tree.pair?_map {α' β' : Type} {f : Tree → Option α} {g : Tree → Option β} {u : α → α'}
    {v : β → β'} (t : Tree) : t.pair? (fun t => (f t).map u) (fun t => (g t).map v)
      = (t.pair? f g).map fun p => (u p.1, v p.2) := by
  match t with
  | list [a, b] =>
    rw [pair?, pair?]
    cases f a with
    | none => rfl
    | some x => cases g b <;> rfl
  | list [] | list [_] | list (_ :: _ :: _ :: _) | null | bool _ | number _ | text _ | record _ =>
    rfl

theorem answers_readPair {first : Reader α} {second : Reader β} {f : Tree → Option α}
    {g : Tree → Option β} (hf : ∀ t, first.Answers t (f t)) (hg : ∀ t, second.Answers t (g t))
    (t : Tree) : (readPair first second).Answers t (t.pair? f g) := by
  match t with
  | .list [] =>
    intro rest
    rfl
  | .list [a] | .list [a, _] | .list (a :: _ :: _ :: _) =>
    exact answers_readPair_list (hf a) fun t _ => hg t
  | .null | .bool _ | .number _ | .text _ | .record [] | .record (_ :: _) =>
    intro rest
    exact toOption_wrongType "a tuple of size 2" _

/-! ### Records -/

namespace RecordShape

variable (r : RecordShape σ α)

/-- One member of a record, taken into a draft: a field is set if it has not been set before, and
what names no field is passed over. -/
def take (draft : σ) (m : List Piece × Tree) : Option σ :=
  (Piece.decode m.1).bind fun key =>
    match r.fields.find? fun f => f.name == String.ofList key with
    | some f => if f.isSet draft then none else (f.read draft).answer m.2
    | none => some draft

/-- The fields of a record take a tree as a whole or not at all. -/
def WholeOn (t : Tree) : Prop :=
  ∀ f ∈ r.fields, ∀ draft, (f.read draft).Answers t ((f.read draft).answer t)

variable {r}

/-- One member behind a comma, or the first one. -/
theorem toOption_readMember {t : Tree} (whole : r.WholeOn t) (key : List Piece) (draft : σ)
    (rest : List Token) :
    ((textOf key >>= fun key => r.readMember key draft (.colon :: (t.tokens ++ rest)))).toOption
      = (r.take draft (key, t)).map fun draft => (draft, rest) := by
  rw [Checked.toOption_bind, toOption_textOf, take]
  cases Piece.decode key with
  | none => rfl
  | some cs =>
    rw [Option.map_some, Option.bind_some, Option.bind_some, readMember]
    cases found : r.fields.find? fun f => f.name == String.ofList cs with
    | none =>
      have colon : expect .colon (.colon :: (t.tokens ++ rest)) = .ok (t.tokens ++ rest) := rfl
      dsimp only
      rw [colon, Checked.ok_bind, t.skip_tokens]
      rfl
    | some f =>
      have colon : expect .colon (.colon :: (t.tokens ++ rest)) = .ok (t.tokens ++ rest) := rfl
      dsimp only
      cases f.isSet draft with
      | true => rfl
      | false =>
        rw [if_neg (by decide), if_neg (by decide), colon, Checked.ok_bind]
        exact whole f (List.mem_of_find?_eq_some found) draft rest

theorem toOption_readMembers {ms : List (List Piece × Tree)} (whole : ∀ m ∈ ms, r.WholeOn m.2)
    {bound : Nat} (enough : ms.length ≤ bound) (draft : σ) (rest : List Token) :
    (r.readMembers bound false draft (Tree.furtherMembers ms ++ .closeRecord :: rest)).toOption
      = (ms.foldlM r.take draft).map fun draft => (draft, rest) := by
  induction ms generalizing bound draft with
  | nil =>
    rw [Tree.furtherMembers, List.nil_append, readMembers]
    rfl
  | cons m ms ih =>
    obtain ⟨key, t⟩ := m
    obtain ⟨bound, rfl⟩ : ∃ n, bound = n + 1 := Nat.exists_eq_add_one.mpr (by
      rw [List.length_cons] at enough
      omega)
    have member := toOption_readMember (whole (key, t) List.mem_cons_self) key draft
      (Tree.furtherMembers ms ++ .closeRecord :: rest)
    rw [Tree.furtherMembers, List.cons_append, List.cons_append, List.cons_append,
      List.append_assoc, readMembers, ← bind_assoc, Checked.toOption_bind, member,
      List.foldlM_cons]
    cases r.take draft (key, t) with
    | none => rfl
    | some draft =>
      exact ih (fun m mem => whole m (List.mem_cons_of_mem _ mem)) (Nat.le_of_succ_le_succ enough)
        draft

theorem length_le_furtherMembers (ms : List (List Piece × Tree)) :
    ms.length ≤ (Tree.furtherMembers ms).length := by
  induction ms with
  | nil => exact Nat.le_refl 0
  | cons m ms ih =>
    obtain ⟨key, t⟩ := m
    simp only [Tree.furtherMembers, List.length_cons, List.length_append]
    omega

/-- A record is read member by member. -/
theorem answers_readRecord {ms : List (List Piece × Tree)} (whole : ∀ m ∈ ms, r.WholeOn m.2) :
    (readRecord r).Answers (.record ms)
      ((ms.foldlM r.take r.blank).bind fun draft => (r.finish draft).toOption) := by
  intro rest
  have finish (o : Option σ) :
      ((o.map fun draft => (draft, rest)).bind fun a =>
        (r.finish a.1 >>= fun b => (.ok (b, a.2) : Except Problem _)).toOption)
      = (o.bind fun draft => (r.finish draft).toOption).map fun b => (b, rest) := by
    cases o with
    | none => rfl
    | some draft =>
      rw [Option.map_some, Option.bind_some, Option.bind_some, Checked.toOption_bind]
      cases (r.finish draft).toOption <;> rfl
  match ms with
  | [] =>
    rw [Tree.tokens, List.cons_append, readRecord, List.cons_append, readMembers, Checked.ok_bind]
    exact finish (some r.blank)
  | (key, t) :: ms =>
    have member := toOption_readMember (whole (key, t) List.mem_cons_self) key r.blank
      (Tree.furtherMembers ms ++ .closeRecord :: rest)
    have enough : ms.length
        ≤ (.colon :: (t.tokens ++ (Tree.furtherMembers ms ++ .closeRecord :: rest))).length := by
      have le := length_le_furtherMembers ms
      simp only [List.length_cons, List.length_append]
      omega
    simp only [Tree.tokens, List.cons_append, List.append_assoc, List.nil_append]
    rw [readRecord, List.length_cons, readMembers, ← bind_assoc, Checked.toOption_bind,
      Checked.toOption_bind, member, List.foldlM_cons]
    rw [← finish]
    congr 1
    cases r.take r.blank (key, t) with
    | none => rfl
    | some draft =>
      exact toOption_readMembers (fun m mem => whole m (List.mem_cons_of_mem _ mem)) enough draft
        rest

/-- A member that sets a field. -/
theorem take_of_answers {key : List Piece} {name : String} {t : Tree} {f : Field σ} {draft : σ}
    {o : Option σ} (named : Piece.decode key = some name.toList)
    (found : (r.fields.find? fun f => f.name == name) = some f) (unset : f.isSet draft = false)
    (answers : (f.read draft).Answers t o) : r.take draft (key, t) = o := by
  rw [take, named, Option.bind_some, String.ofList_toList, found]
  dsimp only
  rw [unset, if_neg (by decide), answers.answer_eq]

end RecordShape

/-! ### Whole texts -/

/-- A text holds what the reader makes of the tree that it is a layout of. -/
theorem toOption_readText {r : Reader α} {t : Tree} {o : Option α} {cs : List Char}
    (answers : r.Answers t o) (layout : Layout t.tokens cs) :
    (readText r (String.ofList cs)).toOption = o := by
  have read := answers []
  rw [List.append_nil] at read
  rw [readText, String.toList_ofList, layout.scan_eq t.separated_tokens, Checked.toOption_bind,
    read]
  cases o <;> rfl

namespace Codec

/-- Values are printed, and read back from what is printed of them. -/
structure IsLawful (c : Codec α) : Prop where
  printable : ∀ a, (c.encode a).IsPrintable
  answers : ∀ a, c.reader.Answers (c.encode a).tree (some a)

variable {c : Codec α}

theorem eq_ok_of_toOption {x : Except Problem α} {a : α} (h : x.toOption = some a) : x = .ok a := by
  cases x with
  | error p => cases h
  | ok b => exact congrArg Except.ok (Option.some.inj h)

/-- What is printed on one line is read back. -/
theorem IsLawful.read_write (h : c.IsLawful) (a : α) : c.read (c.write a) = .ok a :=
  eq_ok_of_toOption (toOption_readText (h.answers a) (Value.layout_compact (h.printable a)))

/-- What is printed on several lines is read back. -/
theorem IsLawful.read_writePretty (h : c.IsLawful) (a : α) : c.read (c.writePretty a) = .ok a :=
  eq_ok_of_toOption (toOption_readText (h.answers a) (Value.layout_pretty (h.printable a)))

theorem isLawful_integer {type : IntegerType} {toInt : α → Int} {ofInt : Int → α}
    (low : -9223372036854775808 ≤ type.least) (high : type.greatest < 18446744073709551616)
    (admits : ∀ a, type.Admits (toInt a)) (inverse : ∀ a, ofInt (toInt a) = a) :
    (integer type toInt ofInt).IsLawful where
  printable a := Numeral.spells_text_ofInt (toInt a)
  answers a := by
    have read := (answers_readInteger type (.number (.ofInt (toInt a)))).map ofInt
    have within : (some (toInt a)).filter (fun i => decide (type.Admits i)) = some (toInt a) :=
      if_pos (decide_eq_true (admits a))
    rw [filter_integer?_ofInt low high, within, Option.map_some, inverse] at read
    exact read

theorem isLawful_variant {all : List α} {name : α → String} (complete : ∀ a, a ∈ all)
    (injective : ∀ a b, name a = name b → a = b) : (variant all name).IsLawful where
  printable _ := trivial
  answers a := by
    have read := answers_readVariant all name (.text ((name a).toList.map Piece.ofChar))
    rw [Tree.name?, Piece.decode_map_ofChar, Option.map_some, Option.bind_some,
      String.ofList_toList] at read
    have found : (all.find? fun b => name b == name a) = some a := by
      cases found : all.find? fun b => name b == name a with
      | none =>
        exact absurd (beq_self_eq_true (name a)) (List.find?_eq_none.mp found a (complete a))
      | some b =>
        have named : (name b == name a) = true :=
          List.find?_some (p := fun b => name b == name a) found
        exact congrArg some (injective b a (beq_iff_eq.mp named))
    rw [found] at read
    exact read

/-- The fields of a record take what is printed of a value if they have its codec. -/
theorem wholeOn_of_fields {c : Codec β} (h : c.IsLawful) {r : RecordShape σ α}
    (fields : ∀ f ∈ r.fields, ∃ get set, f = c.field f.name f.isOptional get set) (b : β) :
    r.WholeOn (c.encode b).tree := by
  intro f mem draft
  obtain ⟨get, set, eq⟩ := fields f mem
  have answers : (f.read draft).Answers (c.encode b).tree (some (set b draft)) := by
    rw [eq]
    exact (h.answers b).map fun b => set b draft
  rw [answers.answer_eq]
  exact answers

/-- A record of two fields with one codec is read back field by field. -/
theorem answers_twoFields {c : Codec β} (h : c.IsLawful) {r : RecordShape σ α}
    {name name' : String} {get get' : σ → Option β} {set set' : β → σ → σ}
    (fields : r.fields = [c.field name false get set, c.field name' false get' set'])
    (distinct : name ≠ name') {b b' : β} {a : α} (unset : (get r.blank).isSome = false)
    (unset' : (get' (set b r.blank)).isSome = false)
    (finish : r.finish (set' b' (set b r.blank)) = .ok a) :
    (readRecord r).Answers (Value.record [(name, c.encode b), (name', c.encode b')]).tree
      (some a) := by
  have whole (b : β) : r.WholeOn (c.encode b).tree := by
    refine wholeOn_of_fields h (fun f mem => ?_) b
    rw [fields, List.mem_cons, List.mem_singleton] at mem
    rcases mem with rfl | rfl
    · exact ⟨get, set, rfl⟩
    · exact ⟨get', set', rfl⟩
  have found : (r.fields.find? fun f => f.name == name) = some (c.field name false get set) := by
    rw [fields]
    exact List.find?_cons_of_pos (beq_self_eq_true name)
  have found' :
      (r.fields.find? fun f => f.name == name') = some (c.field name' false get' set') := by
    rw [fields, List.find?_cons_of_neg (p := fun f : Field σ => f.name == name')
      fun same => distinct (beq_iff_eq.mp same)]
    exact List.find?_cons_of_pos (beq_self_eq_true name')
  have first : r.take r.blank (name.toList.map Piece.ofChar, (c.encode b).tree)
      = some (set b r.blank) :=
    RecordShape.take_of_answers (Piece.decode_map_ofChar _) found unset
      ((h.answers b).map fun b => set b r.blank)
  have second : r.take (set b r.blank) (name'.toList.map Piece.ofChar, (c.encode b').tree)
      = some (set' b' (set b r.blank)) :=
    RecordShape.take_of_answers (Piece.decode_map_ofChar _) found' unset'
      ((h.answers b').map fun b' => set' b' (set b r.blank))
  have whole : ∀ m ∈ Value.members [(name, c.encode b), (name', c.encode b')], r.WholeOn m.2 :=
    List.forall_mem_cons.mpr ⟨whole b, List.forall_mem_cons.mpr ⟨whole b', nofun⟩⟩
  have read := RecordShape.answers_readRecord whole
  have fold : (Value.members [(name, c.encode b), (name', c.encode b')]).foldlM r.take r.blank
      = some (set' b' (set b r.blank)) := by
    rw [Value.members, List.foldlM_cons, first, Option.bind_eq_bind, Option.bind_some,
      Value.members, List.foldlM_cons, second]
    rfl
  rw [fold, Option.bind_some, finish] at read
  exact read

end Codec

end Json

end Skirmish
