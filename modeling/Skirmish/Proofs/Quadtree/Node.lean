import Mathlib.Data.List.Nodup
import Skirmish.Proofs.Checked
import Skirmish.Quadtree.Node

/-!
# What the changes of a node do

A node is *tidy* when it holds no id of a family twice and lists exactly the walkers among its
units.  Each change of a node keeps it tidy, leaves its frame alone, and is described by the
entries that it holds afterwards.

## Main definitions

* `Node.frame` — what a change of the entries leaves alone: the area, the level and the quarters.
* `Node.Tidy` — no id of a family is held twice, and the walkers are listed.

## Main results

* `swapRemove?_eq_some` — one element that satisfies the test is taken out, and no other.
* `Node.Tidy.push`, `Node.Tidy.remove?`, `Node.Tidy.rebox?` — the changes keep a node tidy.
* `Node.Tidy.mem_remove?`, `Node.Tidy.mem_rebox?` — the entries afterwards.
-/

namespace Skirmish

/-! ### Lists -/

/-- The element at an index and the list after `swapRemove` of it make up the list. -/
theorem perm_cons_swapRemove {α : Type} {l : List α} {i : Nat} {a : α} (h : l[i]? = some a) :
    l.Perm (a :: swapRemove l i) := by
  rcases List.eq_nil_or_concat' l with rfl | ⟨init, last, rfl⟩
  · simp at h
  · have eq : swapRemove (init ++ [last]) i = init.set i last := by simp [swapRemove]
    rw [eq]
    rcases Nat.lt_or_ge i init.length with lt | ge
    · have ha : a = init[i] := by
        rw [List.getElem?_append_left lt, List.getElem?_eq_getElem lt] at h
        exact (Option.some.inj h).symm
      have split : init = init.take i ++ a :: init.drop (i + 1) := by
        rw [ha, List.getElem_cons_drop, List.take_append_drop]
      rw [List.set_eq_take_append_cons_drop, if_pos lt]
      conv_lhs => rw [split]
      simp only [List.append_assoc, List.cons_append]
      refine List.perm_middle.trans (List.Perm.cons a ?_)
      exact List.perm_append_comm.append_left _
    · have ha : a = last := by
        have bound := (List.getElem?_eq_some_iff.mp h).1
        have : i = init.length := by simp at bound; omega
        subst this
        simpa using h.symm
      rw [List.set_eq_of_length_le ge, ha]
      exact List.perm_append_comm

/-- `swapRemove?` takes out one element that satisfies the test. -/
theorem swapRemove?_eq_some {α : Type} {test : α → Bool} {l l' : List α} {a : α}
    (h : swapRemove? test l = some (a, l')) : test a = true ∧ l.Perm (a :: l') := by
  simp only [swapRemove?, Option.bind_eq_bind, Option.bind_eq_some_iff] at h
  obtain ⟨i, hi, b, hb, h⟩ := h
  obtain ⟨rfl, rfl⟩ := Prod.mk.inj (Option.some.inj h)
  have := List.of_findIdx?_eq_some hi
  rw [hb] at this
  exact ⟨this, perm_cons_swapRemove hb⟩

/-- `swapRemove?` finds an element if one satisfies the test. -/
theorem swapRemove?_eq_none_iff {α : Type} {test : α → Bool} {l : List α} :
    swapRemove? test l = none ↔ ∀ a ∈ l, test a = false := by
  rw [← List.findIdx?_eq_none_iff]
  simp only [swapRemove?, Option.bind_eq_bind]
  cases hi : l.findIdx? test with
  | none => simp
  | some i =>
    obtain ⟨bound, -⟩ := List.findIdx?_eq_some_iff_getElem.mp hi
    simp [bound]

/-- `modifyFirst?` changes one element that satisfies the test. -/
theorem modifyFirst?_eq_some {α : Type} {test : α → Bool} {f : α → α} {l l' : List α}
    (h : modifyFirst? test f l = some l') :
    ∃ s a r, test a = true ∧ l = s ++ a :: r ∧ l' = s ++ f a :: r := by
  induction l generalizing l' with
  | nil => simp [modifyFirst?] at h
  | cons b l ih =>
    rw [modifyFirst?] at h
    split at h
    case isTrue hb => exact ⟨[], b, l, hb, rfl, (Option.some.inj h).symm⟩
    case isFalse =>
      obtain ⟨l₁, h₁, rfl⟩ := Option.map_eq_some_iff.mp h
      obtain ⟨s, a, r, ha, rfl, rfl⟩ := ih h₁
      exact ⟨b :: s, a, r, ha, rfl, rfl⟩

/-- `modifyFirst?` finds an element if one satisfies the test. -/
theorem modifyFirst?_eq_none_iff {α : Type} {test : α → Bool} {f : α → α} {l : List α} :
    modifyFirst? test f l = none ↔ ∀ a ∈ l, test a = false := by
  induction l with
  | nil => simp [modifyFirst?]
  | cons b l ih =>
    rw [modifyFirst?, List.forall_mem_cons, ← ih]
    cases test b <;> simp

namespace Node

/-! ### Frames -/

/-- What a change of the entries of a node leaves alone. -/
def frame (n : Node) : Box × Nat × Option Nat := (n.area, n.level, n.firstQuarter)

theorem frame_eq_iff {m n : Node} : m.frame = n.frame ↔
    m.area = n.area ∧ m.level = n.level ∧ m.firstQuarter = n.firstQuarter := by
  simp [frame]

@[simp] theorem entries_setEntries_self (n : Node) (kind : EntityKind) (es : List Entry) :
    (n.setEntries kind es).entries kind = es := by
  cases kind <;> rfl

theorem entries_setEntries_of_ne (n : Node) {kind k : EntityKind} (es : List Entry)
    (h : k ≠ kind) : (n.setEntries kind es).entries k = n.entries k := by
  cases kind <;> cases k <;> first | rfl | exact absurd rfl h

@[simp] theorem frame_setEntries (n : Node) (kind : EntityKind) (es : List Entry) :
    (n.setEntries kind es).frame = n.frame := by
  cases kind <;> rfl

@[simp] theorem walkers_setEntries (n : Node) (kind : EntityKind) (es : List Entry) :
    (n.setEntries kind es).walkers = n.walkers := by
  cases kind <;> rfl

@[simp] theorem frame_push (kind : EntityKind) (e : Entry) (n : Node) :
    (n.push kind e).frame = n.frame := by
  unfold push
  split
  · exact frame_setEntries n kind _
  · exact frame_setEntries n kind _

theorem entries_push_self (kind : EntityKind) (e : Entry) (n : Node) :
    (n.push kind e).entries kind = n.entries kind ++ [e] := by
  unfold push
  split
  · cases kind <;> rfl
  · exact entries_setEntries_self n kind _

theorem entries_push_of_ne {kind k : EntityKind} (e : Entry) (n : Node) (h : k ≠ kind) :
    (n.push kind e).entries k = n.entries k := by
  unfold push
  split
  · cases kind <;> cases k <;> first | rfl | exact absurd rfl h
  · exact entries_setEntries_of_ne n _ h

theorem mem_entries_push {kind k : EntityKind} {e e' : Entry} {n : Node} :
    e' ∈ (n.push kind e).entries k ↔ e' ∈ n.entries k ∨ k = kind ∧ e' = e := by
  by_cases h : k = kind
  · subst h
    simp [entries_push_self]
  · simp [entries_push_of_ne e n h, h]

theorem walkers_push (kind : EntityKind) (e : Entry) (n : Node) :
    (n.push kind e).walkers = if kind = .unit ∧ e.mobile then n.walkers ++ [e.id] else n.walkers := by
  unfold push
  split
  · simp
  · simp

/-! ### Tidy nodes -/

/-- A node is tidy when it holds no id of a family twice and lists exactly the walkers among its
units; particles do not walk. -/
structure Tidy (n : Node) : Prop where
  nodup : ∀ kind, ((n.entries kind).map Entry.id).Nodup
  walkers : n.walkers.Perm (((n.entries .unit).filter Entry.mobile).map Entry.id)
  still : ∀ e ∈ n.entries .particle, e.mobile = false

theorem tidy_leaf (area : Box) (level : Nat) : (leaf area level).Tidy where
  nodup kind := by cases kind <;> exact List.nodup_nil
  walkers := List.Perm.refl _
  still e he := absurd he List.not_mem_nil

theorem tidy_branch (first : Nat) (n : Node) : (n.branch first).Tidy where
  nodup kind := by cases kind <;> exact List.nodup_nil
  walkers := List.Perm.refl _
  still e he := absurd he List.not_mem_nil

section

variable {n m : Node} {kind : EntityKind} {id : EntityId} {e : Entry}

/-- In a tidy node an id stands for one entry. -/
theorem Tidy.eq_of_id_eq (h : n.Tidy) {e' : Entry} (he : e ∈ n.entries kind)
    (he' : e' ∈ n.entries kind) (eq : e.id = e'.id) : e = e' :=
  List.inj_on_of_nodup_map (h.nodup kind) he he' eq

theorem Tidy.lookup?_eq_some_iff (h : n.Tidy) :
    n.lookup? kind id = some e ↔ e ∈ n.entries kind ∧ e.id = id := by
  unfold lookup?
  constructor
  · intro found
    exact ⟨List.mem_of_find?_eq_some found, by simpa using List.find?_some found⟩
  · rintro ⟨he, hid⟩
    have isSome : ((n.entries kind).find? fun e => decide (e.id = id)).isSome := by
      rw [List.find?_isSome]
      exact ⟨e, he, by simpa using hid⟩
    obtain ⟨e', found⟩ := Option.isSome_iff_exists.mp isSome
    have hid' : e'.id = id := by simpa using List.find?_some found
    rw [found, h.eq_of_id_eq (List.mem_of_find?_eq_some found) he (hid'.trans hid.symm)]

/-- A new id keeps a node tidy. -/
theorem Tidy.push (h : n.Tidy) (fresh : ∀ e' ∈ n.entries kind, e'.id ≠ e.id)
    (still : kind = .particle → e.mobile = false) : (n.push kind e).Tidy where
  nodup k := by
    by_cases hk : k = kind
    · subst hk
      rw [entries_push_self, List.map_append, List.nodup_append]
      refine ⟨h.nodup k, List.nodup_singleton _, ?_⟩
      intro a ha b hb
      obtain ⟨e', he', rfl⟩ := List.mem_map.mp ha
      rw [List.map_singleton, List.mem_singleton] at hb
      subst hb
      exact fresh e' he'
    · rw [entries_push_of_ne e n hk]
      exact h.nodup k
  walkers := by
    rw [walkers_push]
    cases kind with
    | unit =>
      rw [entries_push_self, List.filter_append, List.map_append]
      cases hm : e.mobile with
      | true => simpa [hm] using h.walkers.append_right _
      | false => simpa [hm] using h.walkers
    | particle =>
      rw [entries_push_of_ne e n (by decide)]
      simpa using h.walkers
  still e' he' := by
    rcases mem_entries_push.mp he' with old | ⟨hk, rfl⟩
    · exact h.still e' old
    · exact still hk.symm

/-! ### Removal -/

theorem remove?_eq_none_iff :
    n.remove? kind id = none ↔ ∀ e ∈ n.entries kind, e.id ≠ id := by
  have : n.remove? kind id = none ↔
      swapRemove? (fun e => decide (e.id = id)) (n.entries kind) = none := by
    unfold remove?
    cases swapRemove? (fun e => decide (e.id = id)) (n.entries kind) <;> simp
  rw [this, swapRemove?_eq_none_iff]
  simp

/-- What is left of a node after the removal of an entry. -/
theorem of_remove?_eq_some (h : n.remove? kind id = some (e, m)) :
    e.id = id ∧ (n.entries kind).Perm (e :: m.entries kind) ∧
      (∀ k, k ≠ kind → m.entries k = n.entries k) ∧ m.frame = n.frame ∧
      m.walkers = if e.mobile then n.walkers.filter (fun w => decide (w ≠ id)) else n.walkers := by
  simp only [remove?, Option.bind_eq_bind, Option.bind_eq_some_iff] at h
  obtain ⟨⟨e', es⟩, found, h⟩ := h
  obtain ⟨test, perm⟩ := swapRemove?_eq_some found
  obtain ⟨rfl, rfl⟩ := Prod.mk.inj (Option.some.inj h)
  refine ⟨by simpa using test, ?_, ?_, ?_, ?_⟩
  · split <;> cases kind <;> exact perm
  · intro k hk
    split <;> cases kind <;> cases k <;> first | rfl | exact absurd rfl hk
  · split <;> cases kind <;> rfl
  · split <;> cases kind <;> rfl

theorem Tidy.mem_remove? (hn : n.Tidy) (h : n.remove? kind id = some (e, m)) {k : EntityKind}
    {e' : Entry} : e' ∈ m.entries k ↔ e' ∈ n.entries k ∧ ¬ (k = kind ∧ e'.id = id) := by
  obtain ⟨hid, perm, others, -⟩ := of_remove?_eq_some h
  by_cases hk : k = kind
  · subst hk
    have nodup := (perm.map Entry.id).nodup_iff.mp (hn.nodup k)
    rw [List.map_cons, List.nodup_cons, hid] at nodup
    have ne_of_mem (a : Entry) (ha : a ∈ m.entries k) : a.id ≠ id := by
      rintro rfl
      exact nodup.1 (List.mem_map_of_mem ha)
    rw [perm.mem_iff, List.mem_cons]
    constructor
    · intro he'
      exact ⟨.inr he', fun key => ne_of_mem e' he' key.2⟩
    · rintro ⟨rfl | he', ne⟩
      · exact absurd ⟨rfl, hid⟩ ne
      · exact he'
  · simp [others k hk, hk]

theorem Tidy.remove? (hn : n.Tidy) (h : n.remove? kind id = some (e, m)) : m.Tidy := by
  obtain ⟨hid, perm, others, -, walkers⟩ := of_remove?_eq_some h
  refine ⟨fun k => ?_, ?_, fun e' he' => ?_⟩
  · by_cases hk : k = kind
    · subst hk
      have nodup := (perm.map Entry.id).nodup_iff.mp (hn.nodup k)
      rw [List.map_cons, List.nodup_cons] at nodup
      exact nodup.2
    · rw [others k hk]
      exact hn.nodup k
  · cases kind with
    | unit =>
      have nodup := (perm.map Entry.id).nodup_iff.mp (hn.nodup .unit)
      rw [List.map_cons, List.nodup_cons] at nodup
      have listed := hn.walkers.trans ((perm.filter Entry.mobile).map Entry.id)
      rw [walkers]
      cases hm : e.mobile with
      | true =>
        rw [List.filter_cons_of_pos hm, List.map_cons, hid] at listed
        have gone : ∀ w ∈ ((m.entries .unit).filter Entry.mobile).map Entry.id, w ≠ id := by
          rintro w hw rfl
          obtain ⟨a, ha, rfl⟩ := List.mem_map.mp hw
          exact nodup.1 (hid ▸ List.mem_map_of_mem (List.mem_of_mem_filter ha))
        refine (listed.filter _).trans ?_
        rw [List.filter_cons_of_neg (by simp), List.filter_eq_self.mpr]
        intro w hw
        simpa using gone w hw
      | false =>
        rw [List.filter_cons_of_neg (by simp [hm])] at listed
        exact listed
    | particle =>
      have still := hn.still e (perm.mem_iff.mpr List.mem_cons_self)
      rw [walkers, others .unit (by decide)]
      simpa [still] using hn.walkers
  · exact hn.still e' ((hn.mem_remove? h).mp he').1

/-! ### Another box -/

/-- What becomes of a leaf when an entry gets another box. -/
theorem of_rebox?_eq_some {box : Box} (h : n.rebox? kind id box = some m) :
    n.isLeaf ∧ n.area.Covers box ∧ m.frame = n.frame ∧ m.walkers = n.walkers ∧
      (∀ k, k ≠ kind → m.entries k = n.entries k) ∧
      ∃ s e r, e.id = id ∧ n.entries kind = s ++ e :: r ∧
        m.entries kind = s ++ { e with box } :: r := by
  unfold rebox? at h
  split at h
  case isTrue fits =>
    obtain ⟨es, found, rfl⟩ := Option.map_eq_some_iff.mp h
    obtain ⟨s, e, r, test, old, rfl⟩ := modifyFirst?_eq_some found
    refine ⟨fits.1, fits.2, frame_setEntries n kind _, walkers_setEntries n kind _,
      fun k hk => entries_setEntries_of_ne n _ hk, s, e, r, by simpa using test, old, ?_⟩
    rw [entries_setEntries_self]
  case isFalse => simp at h

/-- A leaf that covers the new box of one of its entries changes it in its place. -/
theorem exists_rebox? {box : Box} (leaf : n.isLeaf) (covers : n.area.Covers box)
    (he : e ∈ n.entries kind) : ∃ m, n.rebox? kind e.id box = some m := by
  rw [rebox?, if_pos ⟨leaf, covers⟩]
  apply Option.ne_none_iff_exists'.mp
  rw [ne_eq, Option.map_eq_none_iff, modifyFirst?_eq_none_iff]
  intro none
  simpa using none e he

theorem Tidy.mem_rebox? (hn : n.Tidy) {box : Box} (h : n.rebox? kind id box = some m)
    {k : EntityKind} {e' : Entry} : e' ∈ m.entries k ↔
      e' ∈ n.entries k ∧ ¬ (k = kind ∧ e'.id = id) ∨
        k = kind ∧ ∃ e ∈ n.entries kind, e.id = id ∧ e' = { e with box } := by
  obtain ⟨-, -, -, -, others, s, e, r, rfl, old, new⟩ := of_rebox?_eq_some h
  by_cases hk : k = kind
  · subst hk
    have he : e ∈ n.entries k := by simp [old]
    have nodup := hn.nodup k
    rw [old, List.map_append, List.map_cons, List.nodup_middle, List.nodup_cons] at nodup
    have ne_of_mem (a : Entry) (ha : a ∈ s ∨ a ∈ r) : a.id ≠ e.id := by
      intro eq
      refine nodup.1 (eq ▸ ?_)
      rw [← List.map_append]
      exact List.mem_map_of_mem (List.mem_append.mpr ha)
    rw [new]
    constructor
    · intro he'
      rcases List.mem_append.mp he' with hs | hr
      · exact .inl ⟨by simp [old, hs], fun eq => ne_of_mem e' (.inl hs) eq.2⟩
      · rcases List.mem_cons.mp hr with rfl | hr
        · exact .inr ⟨rfl, e, he, rfl, rfl⟩
        · exact .inl ⟨by simp [old, hr], fun eq => ne_of_mem e' (.inr hr) eq.2⟩
    · rintro (⟨he', ne⟩ | ⟨-, a, ha, hid, rfl⟩)
      · rw [old] at he'
        rcases List.mem_append.mp he' with hs | hr
        · simp [hs]
        · rcases List.mem_cons.mp hr with rfl | hr
          · exact absurd ⟨rfl, rfl⟩ ne
          · simp [hr]
      · rw [hn.eq_of_id_eq ha he hid]
        simp
  · simp [others k hk, hk]

theorem Tidy.rebox? (hn : n.Tidy) {box : Box} (h : n.rebox? kind id box = some m) : m.Tidy := by
  obtain ⟨-, -, -, walkers, others, s, e, r, -, old, new⟩ := of_rebox?_eq_some h
  refine ⟨fun k => ?_, ?_, fun e' he' => ?_⟩
  · by_cases hk : k = kind
    · subst hk
      have nodup := hn.nodup k
      rw [old] at nodup
      simpa [new] using nodup
    · rw [others k hk]
      exact hn.nodup k
  · rw [walkers]
    cases kind with
    | unit =>
      have listed := hn.walkers
      rw [old, List.filter_append, List.filter_cons] at listed
      rw [new, List.filter_append, List.filter_cons]
      -- neither the id nor the walking of the entry has changed
      split <;> simp_all
    | particle =>
      rw [others .unit (by decide)]
      exact hn.walkers
  · rcases (hn.mem_rebox? h).mp he' with ⟨he', -⟩ | ⟨hk, a, ha, -, rfl⟩
    · exact hn.still e' he'
    · exact hn.still a (hk ▸ ha)

end

end Node

end Skirmish
