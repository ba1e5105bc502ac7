import Skirmish.Proofs.Entity.Id
import Skirmish.Proofs.Quadtree.Shape

/-!
# Sound indexes

An index is *sound* when its links make a tree, its nodes are tidy, its directories name exactly
the nodes that hold the ids, and every entry stands in the lowest node that covers its box.  In a
sound index an id stands for at most one entry, so the index is a finite map for each family.

Filing an entry, removing one and changing one in its place are all the same kind of change: one
node gets other entries under one id, and the directory follows.  `Refiling` says so once, and
soundness and the new map are derived from it.

## Main definitions

* `Quadtree.Takes t i box` — the node at `i` covers a box, and none of its quarters does.
* `Quadtree.Holds` — some node holds an entry.
* `Quadtree.SoundBut t waiting` — the invariant of the index, but for ids that wait to be filed.
* `Quadtree.Sound` — the invariant of the index.
* `Quadtree.Refiling` — one node gets other entries under one id.

## Main results

* `Sound.lookup?_eq_some_iff` — the entry of an id is the one that is held under it.
* `Refiling.sound`, `Refiling.lookup?` — what becomes of a sound index, and of its map.
* `SoundBut.refiling_shelve`, `Sound.refiling_remove`, `Sound.refiling_rebox` — the three changes.
-/

namespace Skirmish

namespace Quadtree

variable {t t' : Quadtree} {kind k : EntityKind} {id : EntityId} {i j : Nat} {n m : Node}
  {e : Entry}

/-! ### The invariant -/

/-- The node at a place covers a box, and none of its quarters does. -/
structure Takes (t : Quadtree) (i : Nat) (box : Box) : Prop where
  covers : ∃ n, t.nodes[i]? = some n ∧ n.area.Covers box
  lowest : ∀ {j : Nat} {m : Node}, t.HasQuarter i j → t.nodes[j]? = some m →
    ¬ m.area.Covers box

theorem Takes.congr {box : Box} (h : t.Takes i box) (frames : t'.frames = t.frames) :
    t'.Takes i box where
  covers := by
    obtain ⟨n, hn, covers⟩ := h.covers
    obtain ⟨n', hn', eq⟩ := exists_of_frames_eq frames.symm hn
    exact ⟨n', hn', (Node.frame_eq_iff.mp eq).1 ▸ covers⟩
  lowest hij hm := by
    obtain ⟨m', hm', eq⟩ := exists_of_frames_eq frames hm
    rw [(Node.frame_eq_iff.mp eq).1]
    exact h.lowest (hasQuarter_of_frames_eq frames hij) hm'

/-- A leaf has no quarters, so it takes the boxes that it covers. -/
theorem takes_of_isLeaf {box : Box} (hn : t.nodes[i]? = some n) (leaf : n.isLeaf)
    (covers : n.area.Covers box) : t.Takes i box := by
  refine ⟨⟨n, hn, covers⟩, ?_⟩
  intro j m hij
  obtain ⟨n', first, hn', hf, -⟩ := hij
  obtain rfl : n = n' := Option.some.inj (hn.symm.trans hn')
  simp [Node.isLeaf, hf] at leaf

/-- Some node holds an entry. -/
def Holds (t : Quadtree) (kind : EntityKind) (e : Entry) : Prop :=
  ∃ (i : Nat) (n : Node), t.nodes[i]? = some n ∧ e ∈ n.entries kind

/-- The invariant of the index while some ids wait to be filed.  No node holds an entry of such an
id, whatever its directory says. -/
structure SoundBut (t : Quadtree) (waiting : EntityKind → EntityId → Prop) : Prop
    extends t.Shape where
  tidy : ∀ {i : Nat} {n : Node}, t.nodes[i]? = some n → n.Tidy
  /-- A directory names the node that holds an id, and no other id. -/
  home_iff : ∀ {kind : EntityKind} {id : EntityId} {i : Nat}, ¬ waiting kind id →
    ((t.homes kind)[id]? = some i ↔
      ∃ n : Node, t.nodes[i]? = some n ∧ ∃ e ∈ n.entries kind, e.id = id)
  takes : ∀ {kind : EntityKind} {i : Nat} {n : Node} {e : Entry}, t.nodes[i]? = some n →
    e ∈ n.entries kind → t.Takes i e.box
  absent : ∀ {kind : EntityKind} {e : Entry}, t.Holds kind e → ¬ waiting kind e.id

theorem SoundBut.congr_waiting {waiting waiting' : EntityKind → EntityId → Prop}
    (s : t.SoundBut waiting) (h : ∀ k id, waiting k id ↔ waiting' k id) : t.SoundBut waiting' := by
  obtain rfl : waiting = waiting' := funext₂ fun k id => propext (h k id)
  exact s

/-- The invariant of the index. -/
def Sound (t : Quadtree) : Prop := t.SoundBut fun _ _ => False

theorem Sound.home_iff (s : t.Sound) : (t.homes kind)[id]? = some i ↔
    ∃ n : Node, t.nodes[i]? = some n ∧ ∃ e ∈ n.entries kind, e.id = id :=
  SoundBut.home_iff s not_false

theorem sound_single (area : Box) (capacity : Nat) : (single area capacity).Sound := by
  have at_zero {i : Nat} {n : Node} (hn : (single area capacity).nodes[i]? = some n) :
      n = .leaf area 0 := by
    obtain ⟨lt, rfl⟩ := Array.getElem?_eq_some_iff.mp hn
    have : i = 0 := by simpa [single] using lt
    subst this
    rfl
  have no_entry (kind : EntityKind) : (Node.leaf area 0).entries kind = [] := by
    cases kind <;> rfl
  refine ⟨shape_single area capacity, ?_, ?_, ?_, fun _ => not_false⟩
  · intro i n hn
    rw [at_zero hn]
    exact Node.tidy_leaf area 0
  · intro kind id i _
    have : ((single area capacity).homes kind)[id]? = none := by
      cases kind <;> exact Std.ExtTreeMap.getElem?_empty
    rw [this]
    constructor
    · intro h
      cases h
    · rintro ⟨n, hn, e, he, -⟩
      rw [at_zero hn, no_entry] at he
      exact absurd he List.not_mem_nil
  · intro kind i n e hn he
    rw [at_zero hn, no_entry] at he
    exact absurd he List.not_mem_nil

/-! ### The map -/

section

variable {waiting : EntityKind → EntityId → Prop}

/-- The directory names the node that holds an entry. -/
theorem SoundBut.home_of_mem (s : t.SoundBut waiting) (hn : t.nodes[i]? = some n)
    (he : e ∈ n.entries kind) : (t.homes kind)[e.id]? = some i :=
  (s.home_iff (s.absent ⟨i, n, hn, he⟩)).mpr ⟨n, hn, e, he, rfl⟩

/-- An id stands in at most one node. -/
theorem SoundBut.place_unique (s : t.SoundBut waiting) {e' : Entry} (hn : t.nodes[i]? = some n)
    (he : e ∈ n.entries kind) (hm : t.nodes[j]? = some m) (he' : e' ∈ m.entries kind)
    (hid : e.id = e'.id) : i = j := by
  have hi := s.home_of_mem hn he
  rw [hid, s.home_of_mem hm he'] at hi
  exact (Option.some.inj hi).symm

/-- An id stands for at most one entry. -/
theorem SoundBut.eq_of_holds (s : t.SoundBut waiting) {e' : Entry} (he : t.Holds kind e)
    (he' : t.Holds kind e') (hid : e.id = e'.id) : e = e' := by
  obtain ⟨i, n, hn, he⟩ := he
  obtain ⟨j, m, hm, he'⟩ := he'
  obtain rfl := s.place_unique hn he hm he' hid
  obtain rfl : n = m := Option.some.inj (hn.symm.trans hm)
  exact (s.tidy hn).eq_of_id_eq he he' hid

/-- The area covers every box that is filed. -/
theorem SoundBut.area_covers (s : t.SoundBut waiting) (h : t.Holds kind e) :
    t.area.Covers e.box := by
  obtain ⟨i, n, hn, he⟩ := h
  obtain ⟨n', hn', covers⟩ := (s.takes hn he).covers
  obtain rfl : n = n' := Option.some.inj (hn.symm.trans hn')
  exact (s.root_covers hn).trans covers

end

/-- The entry of an id is the one that is held under it. -/
theorem Sound.lookup?_eq_some_iff (s : t.Sound) :
    t.lookup? kind id = some e ↔ t.Holds kind e ∧ e.id = id := by
  simp only [lookup?, Option.bind_eq_bind, Option.bind_eq_some_iff]
  constructor
  · rintro ⟨i, -, n, hn, found⟩
    obtain ⟨he, hid⟩ := (s.tidy hn).lookup?_eq_some_iff.mp found
    exact ⟨⟨i, n, hn, he⟩, hid⟩
  · rintro ⟨⟨i, n, hn, he⟩, hid⟩
    exact ⟨i, hid ▸ s.home_of_mem hn he, n, hn, (s.tidy hn).lookup?_eq_some_iff.mpr ⟨he, hid⟩⟩

theorem Sound.id_of_lookup?_eq_some (s : t.Sound) (h : t.lookup? kind id = some e) : e.id = id :=
  (s.lookup?_eq_some_iff.mp h).2

/-- An id has an entry when some node holds one under it. -/
theorem Sound.lookup?_eq_none_iff (s : t.Sound) :
    t.lookup? kind id = none ↔ ∀ e, t.Holds kind e → e.id ≠ id := by
  rw [Option.eq_none_iff_forall_ne_some]
  exact forall_congr' fun e => by rw [Ne, s.lookup?_eq_some_iff, not_and]

/-- An id is filed when it has an entry. -/
theorem Sound.home_eq_none_iff (s : t.Sound) :
    (t.homes kind)[id]? = none ↔ t.lookup? kind id = none := by
  rw [s.lookup?_eq_none_iff, Option.eq_none_iff_forall_ne_some]
  constructor
  · rintro h e ⟨i, n, hn, he⟩ rfl
    exact h i (s.home_of_mem hn he)
  · intro h i hi
    obtain ⟨n, hn, e, he, hid⟩ := s.home_iff.mp hi
    exact h e ⟨i, n, hn, he⟩ hid

theorem Sound.contains_eq (s : t.Sound) : t.contains kind id = (t.lookup? kind id).isSome := by
  have : t.contains kind id = ((t.homes kind)[id]?).isSome :=
    Std.ExtTreeMap.contains_eq_isSome_getElem?
  rw [this, Bool.eq_iff_iff, ← not_iff_not, Bool.not_eq_true, Bool.not_eq_true,
    Option.isSome_eq_false_iff, Option.isSome_eq_false_iff, Option.isNone_iff_eq_none,
    Option.isNone_iff_eq_none, s.home_eq_none_iff]

/-- Two sound indexes that hold the same entries are the same maps. -/
theorem Sound.lookup?_congr (s : t.Sound) (s' : t'.Sound)
    (h : ∀ k e, t'.Holds k e ↔ t.Holds k e) : t'.lookup? kind id = t.lookup? kind id := by
  apply Option.ext
  intro e
  rw [s'.lookup?_eq_some_iff, s.lookup?_eq_some_iff, h]

/-! ### One id filed differently -/

/-- One node gets other entries under one id, which no other node holds, and the directory
follows. -/
structure Refiling (t t' : Quadtree) (kind : EntityKind) (id : EntityId) (i : Nat) (n m : Node) :
    Prop where
  old : t.nodes[i]? = some n
  nodes : t'.nodes = t.nodes.modify i fun _ => m
  frame : m.frame = n.frame
  tidy : m.Tidy
  kept : ∀ {k : EntityKind} {e : Entry}, ¬ (k = kind ∧ e.id = id) →
    (e ∈ m.entries k ↔ e ∈ n.entries k)
  takes : ∀ {e : Entry}, e ∈ m.entries kind → e.id = id → t.Takes i e.box
  elsewhere : ∀ {j : Nat} {n' : Node} {e : Entry}, t.nodes[j]? = some n' → e ∈ n'.entries kind →
    e.id = id → j = i
  home : ∀ {j : Nat}, (t'.homes kind)[id]? = some j ↔ j = i ∧ ∃ e ∈ m.entries kind, e.id = id
  homes : ∀ {k : EntityKind} {id' : EntityId}, ¬ (k = kind ∧ id' = id) →
    (t'.homes k)[id']? = (t.homes k)[id']?

namespace Refiling

variable {c : EntityKind} {a : EntityId} {waiting waiting' : EntityKind → EntityId → Prop}

theorem frames (h : Refiling t t' c a i n m) : t'.frames = t.frames := by
  have : t'.frames = (t.modifyNode i fun _ => m).frames := by simp [Quadtree.frames, h.nodes]
  rw [this, frames_modifyNode]
  intro n' hn'
  rw [h.frame, Option.some.inj (h.old.symm.trans hn')]

theorem nodes_self (h : Refiling t t' c a i n m) : t'.nodes[i]? = some m := by
  rw [h.nodes, Array.getElem?_modify, if_pos rfl, h.old]
  rfl

theorem nodes_of_ne (h : Refiling t t' c a i n m) (ne : j ≠ i) : t'.nodes[j]? = t.nodes[j]? := by
  rw [h.nodes, Array.getElem?_modify, if_neg (Ne.symm ne)]

/-- The entries of a refiled index: those of the node under the id, and the old ones under the
others. -/
theorem holds_iff (h : Refiling t t' c a i n m) : t'.Holds k e ↔
    if k = c ∧ e.id = a then e ∈ m.entries c else t.Holds k e := by
  split
  case isTrue key =>
    obtain ⟨rfl, rfl⟩ := key
    refine ⟨?_, fun he => ⟨i, m, h.nodes_self, he⟩⟩
    rintro ⟨j, n', hn', he⟩
    by_cases eq : j = i
    · subst eq
      obtain rfl : m = n' := Option.some.inj (h.nodes_self.symm.trans hn')
      exact he
    · rw [h.nodes_of_ne eq] at hn'
      exact absurd (h.elsewhere hn' he rfl) eq
  case isFalse key =>
    constructor
    · rintro ⟨j, n', hn', he⟩
      by_cases eq : j = i
      · subst eq
        obtain rfl : m = n' := Option.some.inj (h.nodes_self.symm.trans hn')
        exact ⟨j, n, h.old, (h.kept key).mp he⟩
      · exact ⟨j, n', h.nodes_of_ne eq ▸ hn', he⟩
    · rintro ⟨j, n', hn', he⟩
      by_cases eq : j = i
      · subst eq
        obtain rfl : n = n' := Option.some.inj (h.old.symm.trans hn')
        exact ⟨j, m, h.nodes_self, (h.kept key).mpr he⟩
      · exact ⟨j, n', (h.nodes_of_ne eq).trans hn', he⟩

/-- A refiled index is sound, and the id does not wait any more. -/
theorem soundBut (h : Refiling t t' c a i n m) (s : t.SoundBut waiting)
    (hw : ∀ {k id}, waiting' k id ↔ waiting k id ∧ ¬ (k = c ∧ id = a)) :
    t'.SoundBut waiting' := by
  refine ⟨s.toShape.congr h.frames, ?_, ?_, ?_, ?_⟩
  · intro j n' hn'
    by_cases eq : j = i
    · subst eq
      obtain rfl : m = n' := Option.some.inj (h.nodes_self.symm.trans hn')
      exact h.tidy
    · exact s.tidy (h.nodes_of_ne eq ▸ hn')
  · intro k id j not_waiting
    by_cases key : k = c ∧ id = a
    · -- the id that is filed differently
      obtain ⟨rfl, rfl⟩ := key
      rw [h.home]
      constructor
      · rintro ⟨rfl, he⟩
        exact ⟨m, h.nodes_self, he⟩
      · rintro ⟨n', hn', e, he, hid⟩
        by_cases eq : j = i
        · subst eq
          obtain rfl : m = n' := Option.some.inj (h.nodes_self.symm.trans hn')
          exact ⟨rfl, e, he, hid⟩
        · exact absurd (h.elsewhere (h.nodes_of_ne eq ▸ hn') he hid) eq
    · have : ¬ waiting k id := fun w => not_waiting (hw.mpr ⟨w, key⟩)
      rw [h.homes key, s.home_iff this]
      have at_i : (∃ e ∈ m.entries k, e.id = id) ↔ ∃ e ∈ n.entries k, e.id = id := by
        refine exists_congr fun e => and_congr_left fun hid => h.kept ?_
        rwa [hid]
      by_cases eq : j = i
      · subst eq
        simp [h.nodes_self, h.old, at_i]
      · rw [h.nodes_of_ne eq]
  · intro k j n' e hn' he
    refine Takes.congr ?_ h.frames
    by_cases eq : j = i
    · subst eq
      obtain rfl : m = n' := Option.some.inj (h.nodes_self.symm.trans hn')
      by_cases key : k = c ∧ e.id = a
      · exact h.takes (key.1 ▸ he) key.2
      · exact s.takes h.old ((h.kept key).mp he)
    · exact s.takes (h.nodes_of_ne eq ▸ hn') he
  · intro k e he w
    obtain ⟨w, key⟩ := hw.mp w
    rw [h.holds_iff, if_neg key] at he
    exact s.absent he w

theorem sound (h : Refiling t t' c a i n m) (s : t.Sound) : t'.Sound :=
  h.soundBut s (by simp)

/-- What a refiled index holds under the id, and under the others. -/
theorem lookup? (h : Refiling t t' c a i n m) (s : t.Sound) :
    t'.lookup? k id = if k = c ∧ id = a then m.lookup? c a else t.lookup? k id := by
  apply Option.ext
  intro e
  rw [(h.sound s).lookup?_eq_some_iff, h.holds_iff]
  by_cases key : k = c ∧ id = a
  · rw [if_pos key, h.tidy.lookup?_eq_some_iff]
    obtain ⟨rfl, rfl⟩ := key
    exact and_congr_left fun hid => by rw [if_pos ⟨rfl, hid⟩]
  · rw [if_neg key, s.lookup?_eq_some_iff]
    exact and_congr_left fun hid => by rw [if_neg (by rwa [hid])]

end Refiling

/-! ### The three changes -/

theorem nodes_shelve : (t.shelve kind e i).nodes = t.nodes.modify i (Node.push kind e) := by
  simp [shelve]

theorem homes_shelve_self :
    (t.shelve kind e i).homes kind = (t.homes kind).insert e.id i := by
  simp [shelve]

theorem homes_shelve_of_ne (h : k ≠ kind) : (t.shelve kind e i).homes k = t.homes k := by
  rw [shelve, homes_setHomes_of_ne _ _ h, homes_modifyNode]

/-- Filing an id that no node holds at the node that takes its box. -/
theorem SoundBut.refiling_shelve {waiting : EntityKind → EntityId → Prop} (s : t.SoundBut waiting)
    (hn : t.nodes[i]? = some n) (takes : t.Takes i e.box)
    (fresh : ∀ e', t.Holds kind e' → e'.id ≠ e.id) (still : kind = .particle → e.mobile = false) :
    Refiling t (t.shelve kind e i) kind e.id i n (n.push kind e) where
  old := hn
  nodes := by
    rw [nodes_shelve]
    apply Array.ext_getElem?
    intro j
    simp only [Array.getElem?_modify]
    split
    · next eq => rw [← eq, hn]; rfl
    · rfl
  frame := Node.frame_push kind e n
  tidy := (s.tidy hn).push (fun e' he' => fresh e' ⟨i, n, hn, he'⟩) still
  kept {k e'} ne := by
    rw [Node.mem_entries_push]
    refine or_iff_left ?_
    rintro ⟨rfl, rfl⟩
    exact ne ⟨rfl, rfl⟩
  takes {e'} he' hid := by
    rcases Node.mem_entries_push.mp he' with old | ⟨-, rfl⟩
    · exact absurd hid (fresh e' ⟨i, n, hn, old⟩)
    · exact takes
  elsewhere {j n' e'} hn' he' hid := absurd hid (fresh e' ⟨j, n', hn', he'⟩)
  home {j} := by
    rw [homes_shelve_self, Std.ExtTreeMap.getElem?_insert_self, Option.some.injEq]
    have held : ∃ e' ∈ (n.push kind e).entries kind, e'.id = e.id :=
      ⟨e, Node.mem_entries_push.mpr (.inr ⟨rfl, rfl⟩), rfl⟩
    rw [and_iff_left held]
    exact eq_comm
  homes {k id} ne := by
    by_cases hk : k = kind
    · subst hk
      have : id ≠ e.id := fun eq => ne ⟨rfl, eq⟩
      rw [homes_shelve_self, EntityId.getElem?_insert, if_neg this]
    · rw [homes_shelve_of_ne hk]

/-- Removing the entry of an id from the node that holds it. -/
theorem Sound.refiling_remove (s : t.Sound) (hn : t.nodes[i]? = some n)
    (home : (t.homes kind)[id]? = some i) (h : n.remove? kind id = some (e, m)) :
    Refiling t ((t.setHomes kind ((t.homes kind).erase id)).modifyNode i fun _ => m)
      kind id i n m where
  old := hn
  nodes := by simp
  frame := (Node.of_remove?_eq_some h).2.2.2.1
  tidy := (s.tidy hn).remove? h
  kept ne := by
    rw [(s.tidy hn).mem_remove? h, and_iff_left ne]
  takes he' hid := absurd ⟨rfl, hid⟩ (((s.tidy hn).mem_remove? h).mp he').2
  elsewhere hn' he' hid := by
    have := s.home_of_mem hn' he'
    rw [hid, home] at this
    exact (Option.some.inj this).symm
  home {j} := by
    simp only [homes_modifyNode, homes_setHomes_self, Std.ExtTreeMap.getElem?_erase_self]
    refine ⟨nofun, ?_⟩
    rintro ⟨-, e', he', hid⟩
    exact absurd ⟨rfl, hid⟩ (((s.tidy hn).mem_remove? h).mp he').2
  homes {k id'} ne := by
    rw [homes_modifyNode]
    by_cases hk : k = kind
    · subst hk
      have : id' ≠ id := fun eq => ne ⟨rfl, eq⟩
      rw [homes_setHomes_self, EntityId.getElem?_erase, if_neg this]
    · rw [homes_setHomes_of_ne _ _ hk]

/-- Changing the box of an entry within the leaf that holds it. -/
theorem Sound.refiling_rebox (s : t.Sound) {box : Box} (hn : t.nodes[i]? = some n)
    (home : (t.homes kind)[id]? = some i) (h : n.rebox? kind id box = some m) :
    Refiling t (t.modifyNode i fun _ => m) kind id i n m where
  old := hn
  nodes := rfl
  frame := (Node.of_rebox?_eq_some h).2.2.1
  tidy := (s.tidy hn).rebox? h
  kept {k e} ne := by
    rw [(s.tidy hn).mem_rebox? h, and_iff_left ne]
    refine or_iff_left ?_
    rintro ⟨rfl, e', -, hid, rfl⟩
    exact ne ⟨rfl, hid⟩
  takes {e} he hid := by
    obtain ⟨leaf, covers, -⟩ := Node.of_rebox?_eq_some h
    rcases ((s.tidy hn).mem_rebox? h).mp he with ⟨-, ne⟩ | ⟨-, e', -, -, rfl⟩
    · exact absurd ⟨rfl, hid⟩ ne
    · exact takes_of_isLeaf hn leaf covers
  elsewhere hn' he' hid := by
    have := s.home_of_mem hn' he'
    rw [hid, home] at this
    exact (Option.some.inj this).symm
  home {j} := by
    rw [homes_modifyNode, home, Option.some.injEq]
    obtain ⟨-, -, -, -, -, b, e, r, hid, -, new⟩ := Node.of_rebox?_eq_some h
    have held : ∃ e ∈ m.entries kind, e.id = id := ⟨{ e with box }, by simp [new], hid⟩
    rw [and_iff_left held]
    exact eq_comm
  homes ne := by rw [homes_modifyNode]

end Quadtree

end Skirmish
