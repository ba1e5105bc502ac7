import Skirmish.Proofs.Quadtree.Canonical

/-!
# What the history of an index leaves behind

A full leaf is split when one more entry comes, and its quarters stay when entries leave.  So the
nodes of an index depend on all that was filed since it was last empty.  Two bounds remain of that
history: a leaf that can be split is never overfull, whether its entries were put there, came down
from a node that was split, or walked in; and a split node has at some time or other been sent more
boxes than a leaf holds.

## Main definitions

* `Quadtree.without` — some entries but for those of an id.
* `Quadtree.held` — the entries that the index holds, units first.
* `Quadtree.Tended` — what every operation keeps.

## Main results

* `Balanced.unbind`, `Balanced.rebind` — an entry taken out, and one moved within its leaf.
* `Balanced.rebuild` — a rebuilt index is balanced for what it holds.
* `Tended.perform`, `Tended.run` — one operation, and a run.
* `leaf_load_of_run` — only leaves that cannot be split and split nodes exceed the capacity.
-/

namespace Skirmish

namespace Quadtree

variable {t t' : Quadtree} {kind k : EntityKind} {id : EntityId} {i : Nat} {n : Node} {e : Entry}
  {box : Box} {xs ys : List (EntityKind × Entry)}

/-! ### An entry less -/

/-- Some entries but for those of an id. -/
def without (kind : EntityKind) (id : EntityId) (xs : List (EntityKind × Entry)) :
    List (EntityKind × Entry) :=
  xs.filter fun x => decide (¬ (x.1 = kind ∧ x.2.id = id))

theorem mem_without :
    (k, e) ∈ without kind id xs ↔ (k, e) ∈ xs ∧ ¬ (k = kind ∧ e.id = id) := by
  rw [without, List.mem_filter, decide_eq_true_iff]

theorem without_sublist : (without kind id xs).Sublist xs := List.filter_sublist

theorem load_without_le (area : Box) : load (without kind id xs) area ≤ load xs area :=
  without_sublist.subperm.countP_le _

/-- An area that covers an entry has a smaller load without it. -/
theorem load_without_lt {area : Box} (mem : (kind, e) ∈ xs) (covers : area.Covers e.box) :
    load (without kind e.id xs) area < load xs area := by
  have sub : ((kind, e) :: without kind e.id xs).Subperm xs :=
    List.cons_subperm_of_not_mem_of_mem (fun mem => (mem_without.mp mem).2 ⟨rfl, rfl⟩) mem
      without_sublist.subperm
  have := sub.countP_le fun x => decide (area.Covers x.2.box)
  rwa [← load, load_cons_of_covers (x := (kind, e)) covers] at this

theorem Files.unbind (f : t.Files xs) (s : t.Sound) (rebinds : t.Rebinds t' kind id none) :
    t'.Files (without kind id xs) where
  nodup := f.nodup.sublist without_sublist
  points x hx := f.points x (without_sublist.subset hx)
  holds_iff {k e} := by
    rw [rebinds.sound.holds_iff, rebinds.lookup?_eq, rebinds.area, mem_without]
    by_cases key : k = kind ∧ e.id = id
    · simp [key]
    · rw [if_neg key, ← s.holds_iff, f.holds_iff, and_iff_left key]

/-- An entry taken out.  It still counts for the nodes that were split before. -/
theorem Balanced.unbind (h : t.Balanced xs ys) (rebinds : t.Rebinds t' kind id none)
    (frames : t'.frames = t.frames) : t'.Balanced (without kind id xs) ys := by
  have bounds : t.Bounds (without kind id xs) ys := by
    refine ⟨fun hn leaf can => ?_, h.splits⟩
    exact Nat.le_trans (without_sublist.subperm.countP_le _) (h.leaves hn leaf can)
  exact ⟨bounds.congr frames rebinds.capacity, rebinds.sound, h.files.unbind h.sound rebinds⟩

/-! ### An entry that moves within its leaf -/

/-- An entry that gets another box, which the leaf that holds it covers as well. -/
theorem Balanced.rebind (h : t.Balanced xs ys) (hn : t.nodes[i]? = some n) (leaf : n.isLeaf)
    (he : e ∈ n.entries kind) (covers : n.area.Covers box) (points : ¬ box.IsEmpty)
    (rebinds : t.Rebinds t' kind e.id (some { e with box })) (frames : t'.frames = t.frames) :
    t'.Balanced ((kind, { e with box }) :: without kind e.id xs) ((kind, { e with box }) :: ys) := by
  have fresh : (kind, { e with box }) ∉ without kind e.id xs :=
    fun mem => (mem_without.mp mem).2 ⟨rfl, rfl⟩
  obtain ⟨filed, old⟩ := (h.files.mem_entries_iff h.sound hn leaf).mp he
  have bounds : t.Bounds ((kind, { e with box }) :: without kind e.id xs)
      ((kind, { e with box }) :: ys) := by
    refine ⟨fun {j m} hm leaf' can => ?_, fun hm split => ?_⟩
    · refine Nat.le_trans ?_ (h.leaves hm leaf' can)
      by_cases covers' : m.area.Covers box
      · -- the leaf that holds the entry: the new box takes the place of the old one
        obtain rfl : i = j :=
          h.sound.eq_of_takes_of_isLeaf points (takes_of_isLeaf hn leaf covers) hm leaf' covers'
        obtain rfl : n = m := Option.some.inj (hn.symm.trans hm)
        rw [load_cons_of_covers (x := (kind, { e with box })) covers']
        exact load_without_lt filed old
      · rw [load_cons_of_not_covers (x := (kind, { e with box })) covers']
        exact load_without_le _
    · obtain ⟨can, crowded⟩ := h.splits hm split
      exact ⟨can, Nat.lt_of_lt_of_le crowded (load_le_load_cons _)⟩
  have covered : t.area.Covers box := (h.sound.root_covers hn).trans covers
  refine ⟨bounds.congr frames rebinds.capacity, rebinds.sound, ?_, ?_, ?_⟩
  · exact List.nodup_cons.mpr ⟨fresh, h.files.nodup.sublist without_sublist⟩
  · exact List.forall_mem_cons.mpr
      ⟨points, fun x hx => h.files.points x (without_sublist.subset hx)⟩
  · intro k e'
    rw [rebinds.sound.holds_iff, rebinds.lookup?_eq, rebinds.area, List.mem_cons, mem_without,
      Prod.mk.injEq]
    by_cases key : k = kind ∧ e'.id = e.id
    · rw [if_pos key, Option.some.injEq, and_iff_right key.1,
        or_iff_left fun other => other.2 key]
      refine ⟨?_, fun found => found.1.symm⟩
      rintro rfl
      exact ⟨rfl, covered⟩
    · rw [if_neg key, ← h.sound.holds_iff, h.files.holds_iff, and_iff_left key]
      refine and_congr_left fun _ => (or_iff_right ?_).symm
      rintro ⟨rfl, rfl⟩
      exact key ⟨rfl, rfl⟩

/-! ### Rebuilding -/

/-- An entry that is put without a fault, and that the area covers, is new. -/
theorem Balanced.not_mem_of_put (h : t.Balanced xs ys) (covers : t.area.Covers e.box)
    {r : Bool × Quadtree} (ok : t.put kind e = .ok r) : (kind, e) ∉ xs := by
  intro mem
  have filed := h.sound.holds_iff.mp (h.files.holds_iff.mpr ⟨mem, covers⟩)
  rw [h.sound.put_of_filed covers (by rw [filed]; rfl)] at ok
  cases ok

/-- Entries put into a balanced index, one after the other. -/
theorem Balanced.putAll (h : t.Balanced xs xs) (kind : EntityKind) {es : List Entry}
    (covers : ∀ e ∈ es, t.area.Covers e.box) (points : ∀ e ∈ es, ¬ e.box.IsEmpty)
    (still : kind = .particle → ∀ e ∈ es, e.mobile = false) (ok : t.putAll kind es = .ok t') :
    t'.Balanced (es.map (Prod.mk kind) ++ xs) (es.map (Prod.mk kind) ++ xs) ∧
      t'.area = t.area := by
  induction es generalizing t xs with
  | nil =>
    obtain rfl := Except.ok.inj ok
    exact ⟨h, rfl⟩
  | cons e es ih =>
    rw [Quadtree.putAll, List.foldlM_cons, Checked.bind_eq_ok_iff] at ok
    obtain ⟨t₁, first, ok⟩ := ok
    obtain ⟨r, put, rfl⟩ := Checked.map_eq_ok_iff.mp first
    rw [List.forall_mem_cons] at covers points
    have fresh := h.not_mem_of_put covers.1 put
    have still_e (hk : kind = .particle) : e.mobile = false := still hk e List.mem_cons_self
    have h₁ := h.put (x := (kind, e)) (.refl xs) points.1 still_e fresh put
    have area : r.2.area = t.area := by
      rcases h.sound.of_put_eq_ok still_e put with ⟨-, -, rebinds⟩ | ⟨-, rfl⟩
      · exact rebinds.area
      · rfl
    obtain ⟨h', area'⟩ := ih h₁ (area ▸ covers.2) points.2
      (fun hk e' he' => still hk e' (List.mem_cons_of_mem e he')) ok
    exact ⟨h'.perm List.perm_middle, area'.trans area⟩

/-- The entries that the index holds, units first and each family in the order of the ids. -/
def held (t : Quadtree) : List (EntityKind × Entry) := pooled t.listed

theorem mem_held : (k, e) ∈ t.held ↔ t.Holds k e :=
  mem_pooled.trans Sound.mem_listed

/-- A rebuilt index is balanced for what it holds. -/
theorem Balanced.rebuild (h : t.Balanced xs ys) (ok : t.rebuild = .ok t') :
    t'.Balanced t.held t.held := by
  have covers (k : EntityKind) (e : Entry) (he : e ∈ t.listed k) : t.area.Covers e.box :=
    h.sound.area_covers (Sound.mem_listed.mp he)
  have points (k : EntityKind) (e : Entry) (he : e ∈ t.listed k) : ¬ e.box.IsEmpty :=
    h.files.not_isEmpty (Sound.mem_listed.mp he)
  have still (e : Entry) (he : e ∈ t.listed .particle) : e.mobile = false :=
    Sound.still h.sound (h.sound.holds_iff.mp (Sound.mem_listed.mp he))
  obtain ⟨t₁, units, particles⟩ := Checked.bind_eq_ok_iff.mp ok
  obtain ⟨h₁, area₁⟩ :=
    (balanced_single t.area t.capacity).putAll .unit (covers .unit) (points .unit) nofun units
  rw [List.append_nil] at h₁
  obtain ⟨h', -⟩ := h₁.putAll .particle (area₁ ▸ covers .particle) (points .particle)
    (fun _ => still) particles
  exact h'.perm List.perm_append_comm

/-! ### Every operation -/

/-- What every operation keeps: the index is balanced for the entries that it files and for all that
have been filed since it was last empty. -/
def Tended (t : Quadtree) : Prop :=
  ∃ xs ys, t.Balanced xs ys ∧ xs.Subperm ys

theorem Tended.sound (h : t.Tended) : t.Sound := by
  obtain ⟨xs, ys, h, -⟩ := h
  exact h.sound

theorem tended_single (area : Box) (capacity : Nat) : (single area capacity).Tended :=
  ⟨[], [], balanced_single area capacity, .refl []⟩

theorem Tended.put (h : t.Tended) (points : ¬ e.box.IsEmpty)
    (still : kind = .particle → e.mobile = false) {r : Bool × Quadtree}
    (ok : t.put kind e = .ok r) : r.2.Tended := by
  obtain ⟨xs, ys, h, sub⟩ := h
  by_cases covers : t.area.Covers e.box
  · have fresh := h.not_mem_of_put covers ok
    exact ⟨_, _, h.put (x := (kind, e)) sub points still fresh ok, (List.subperm_cons _).mpr sub⟩
  · rw [put_of_not_covers covers] at ok
    obtain rfl := Except.ok.inj ok
    exact ⟨xs, ys, h, sub⟩

/-- An id that is not filed afterwards. -/
theorem Tended.unbind (h : t.Tended) (rebinds : t.Rebinds t' kind id none)
    (frames : t'.frames = t.frames) : t'.Tended := by
  obtain ⟨xs, ys, h, sub⟩ := h
  exact ⟨_, _, h.unbind rebinds frames, without_sublist.subperm.trans sub⟩

theorem Tended.erase (h : t.Tended) {r : Bool × Quadtree} (ok : t.erase kind id = .ok r) :
    r.2.Tended := by
  rw [Quadtree.erase] at ok
  cases found : t.lookup? kind id with
  | none =>
    rw [h.sound.remove?_of_not_filed found] at ok
    obtain rfl := Except.ok.inj ok
    exact h
  | some e =>
    obtain ⟨t₁, removed, rebinds, frames⟩ := h.sound.remove?_of_filed found
    rw [removed] at ok
    obtain rfl := Except.ok.inj ok
    exact h.unbind rebinds frames

theorem Tended.update (h : t.Tended) (points : ¬ box.IsEmpty) {r : Bool × Quadtree}
    (ok : t.update kind id box = .ok r) : r.2.Tended := by
  have s := h.sound
  cases found : t.lookup? kind id with
  | none =>
    rw [Quadtree.update, s.home_eq_none_iff.mpr found] at ok
    obtain rfl := Except.ok.inj ok
    exact h
  | some e =>
    obtain ⟨⟨i, n, hn, he⟩, rfl⟩ := s.lookup?_eq_some_iff.mp found
    cases hm : n.rebox? kind e.id box with
    | some m =>
      obtain ⟨updated, rebinds, frames⟩ := s.update_of_rebox? hn he hm
      rw [updated] at ok
      obtain rfl := Except.ok.inj ok
      obtain ⟨leaf, covers, -⟩ := Node.of_rebox?_eq_some hm
      obtain ⟨xs, ys, h, sub⟩ := h
      exact ⟨_, _, h.rebind hn leaf he covers points rebinds frames,
        (List.subperm_cons _).mpr (without_sublist.subperm.trans sub)⟩
    | none =>
      obtain ⟨t₁, removed, rebinds, frames⟩ := s.remove?_of_filed found
      rw [s.update_of_removed hn he hm removed] at ok
      have still (hk : kind = .particle) : e.mobile = false := s.still (hk ▸ found)
      exact (h.unbind rebinds frames).put (e := { e with box }) points still ok

theorem Tended.rebuild (h : t.Tended) (ok : t.rebuild = .ok t') : t'.Tended := by
  obtain ⟨xs, ys, h, -⟩ := h
  exact ⟨_, _, h.rebuild ok, .refl t.held⟩

/-- One operation.  It changes neither the area nor the capacity. -/
theorem Tended.perform (h : t.Tended) (op : Op) {reply : Option Bool}
    (ok : op.perform t = .ok (reply, t')) :
    t'.Tended ∧ t'.area = t.area ∧ t'.capacity = t.capacity := by
  have s := h.sound
  cases op with
  | put x =>
    obtain ⟨r, done, eq⟩ := Checked.map_eq_ok_iff.mp ok
    cases eq
    refine ⟨h.put x.not_isEmpty x.still done, ?_⟩
    rcases s.of_put_eq_ok x.still done with ⟨-, -, rebinds⟩ | ⟨-, same⟩
    · exact ⟨rebinds.area, rebinds.capacity⟩
    · rw [same]
      exact ⟨rfl, rfl⟩
  | update x =>
    obtain ⟨r, done, eq⟩ := Checked.map_eq_ok_iff.mp ok
    cases eq
    obtain ⟨-, rebinds⟩ := (s.update _ _ _).of_eq_ok done
    exact ⟨h.update x.not_isEmpty done, rebinds.area, rebinds.capacity⟩
  | erase kind id =>
    obtain ⟨r, done, eq⟩ := Checked.map_eq_ok_iff.mp ok
    cases eq
    obtain ⟨t₁, erased, rebinds⟩ := s.erase kind id
    obtain rfl := Except.ok.inj (done.symm.trans erased)
    exact ⟨h.erase done, rebinds.area, rebinds.capacity⟩
  | clear =>
    cases ok
    exact ⟨tended_single t.area t.capacity, rfl, rfl⟩
  | rebuild =>
    obtain ⟨r, done, eq⟩ := Checked.map_eq_ok_iff.mp ok
    cases eq
    obtain ⟨-, same⟩ := s.rebuild.of_eq_ok done
    exact ⟨h.rebuild done, same.area, same.capacity⟩

/-- A run of operations. -/
theorem Tended.run (h : t.Tended) {ops : List Op} {replies : List (Option Bool)}
    (ok : run ops t = .ok (replies, t')) :
    t'.Tended ∧ t'.area = t.area ∧ t'.capacity = t.capacity := by
  induction ops generalizing t replies with
  | nil =>
    cases ok
    exact ⟨h, rfl, rfl⟩
  | cons op ops ih =>
    rw [Quadtree.run, Checked.bind_eq_ok_iff] at ok
    obtain ⟨⟨reply, t₁⟩, performed, ok⟩ := ok
    obtain ⟨⟨replies', t₂⟩, ran, eq⟩ := Checked.bind_eq_ok_iff.mp ok
    cases eq
    obtain ⟨h₁, area, capacity⟩ := h.perform op performed
    obtain ⟨h', area', capacity'⟩ := ih h₁ ran
    exact ⟨h', area'.trans area, capacity'.trans capacity⟩

theorem tended_of_run {area : Box} {capacity : Nat} {ops : List Op} {replies : List (Option Bool)}
    (ok : run ops (.empty area capacity) = .ok (replies, t)) :
    t.Tended ∧ t.area = area ∧ t.capacity = max capacity 1 :=
  (tended_single area (max capacity 1)).run ok

/-! ### The load of a leaf -/

/-- A leaf that can be split holds at most the capacity. -/
theorem Tended.size_le (h : t.Tended) (hn : t.nodes[i]? = some n) (leaf : n.isLeaf)
    (can : n.CanSplit) : n.size ≤ t.capacity := by
  obtain ⟨xs, ys, h, -⟩ := h
  rw [h.files.size_eq_load h.sound hn leaf]
  exact h.leaves hn leaf can

/-- After every run from the empty index a leaf that can be split holds at most the capacity, units
and particles together.  A node with more entries is a leaf that cannot be split, or it is split and
its entries lie across the lines between its quarters. -/
theorem leaf_load_of_run {area : Box} {capacity : Nat} {ops : List Op}
    {replies : List (Option Bool)} (ok : run ops (.empty area capacity) = .ok (replies, t))
    (hn : t.nodes[i]? = some n) :
    (n.isLeaf → n.CanSplit → n.units.length + n.particles.length ≤ max capacity 1) ∧
      (max capacity 1 < n.units.length + n.particles.length →
        n.isLeaf ∧ ¬ n.CanSplit ∨
          ¬ n.isLeaf ∧ ∀ kind, ∀ e ∈ n.entries kind, ∀ (j : Nat) (m : Node), t.HasQuarter i j →
            t.nodes[j]? = some m → ¬ m.area.Covers e.box) := by
  obtain ⟨h, -, capacity_eq⟩ := tended_of_run ok
  have bound (leaf : n.isLeaf) (can : n.CanSplit) :
      n.units.length + n.particles.length ≤ max capacity 1 :=
    capacity_eq ▸ h.size_le hn leaf can
  refine ⟨bound, fun crowded => ?_⟩
  by_cases leaf : n.isLeaf
  · exact .inl ⟨leaf, fun can => Nat.not_le.mpr crowded (bound leaf can)⟩
  · exact .inr ⟨leaf, fun kind e he j m hij hm => (h.sound.takes hn he).lowest hij hm⟩

/-- Two particles in one place, which no split sets apart, and three units: one put on both middle
lines, one that walks there, and one that comes and goes. -/
def crowd : List Op :=
  [.put (.particle (.debris ⟨1⟩ ⟨20, 20⟩ 1)), .put (.particle (.debris ⟨2⟩ ⟨20, 20⟩ 1)),
    .put (.unit (.villager ⟨1⟩ ⟨64, 64⟩ 1)), .put (.unit (.villager ⟨2⟩ ⟨100, 100⟩ 1)),
    .update (.unit (.villager ⟨2⟩ ⟨64, 64⟩ 1)), .put (.unit (.villager ⟨3⟩ ⟨100, 100⟩ 1)),
    .erase .unit ⟨3⟩]

theorem leaf_load_of_crowd : ∃ replies t,
    run crowd (.empty ⟨⟨64, 64⟩, ⟨64, 64⟩⟩ 0) = .ok (replies, t) ∧
      t.nodes.toList.map Node.size = [2, 0, 0, 0, 0, 0, 0, 0, 0, 0, 0, 0, 0, 2, 0, 0, 0] ∧
      ∀ (i : Nat) (n : Node), t.nodes[i]? = some n → n.isLeaf → n.CanSplit →
        n.units.length + n.particles.length ≤ 1 := by
  have sizes : (run crowd (.empty ⟨⟨64, 64⟩, ⟨64, 64⟩⟩ 0)).map
      (fun r => r.2.nodes.toList.map Node.size)
        = .ok [2, 0, 0, 0, 0, 0, 0, 0, 0, 0, 0, 0, 0, 2, 0, 0, 0] := by
    decide +kernel
  obtain ⟨⟨replies, t⟩, ran, sizes⟩ := Checked.map_eq_ok_iff.mp sizes
  exact ⟨replies, t, ran, sizes, fun i n hn => (leaf_load_of_run ran hn).1⟩

end Quadtree

end Skirmish
