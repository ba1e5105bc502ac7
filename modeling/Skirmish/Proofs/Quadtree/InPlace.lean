import Skirmish.Proofs.Quadtree.History

/-!
# Relocation within a leaf

An entry whose new box still fits the leaf that holds it is changed in its place.  Removing it and
filing it anew comes to the same.  The leaf has room when the entry is gone, even if it was full
before, so nothing is split on the way down; and the way ends at this leaf, since it takes the box
and no other node does.  Only the order in which the leaf lists its entries may differ.

## Main definitions

* `Quadtree.SameButOrder` — two indexes that differ in the order of entries within a node at most.

## Main results

* `Entered.seek_of_room`, `Sound.put_of_room` — the way to a leaf with room, and an entry put there.
* `Sound.sameButOrder` — what is held and the frames determine an index but for the order.
* `Balanced.exists_anew` — an entry removed and filed anew stands in its leaf again.
* `Tended.update_in_place` — an entry changed in its place, and one removed and filed anew.
* `update_in_place_of_run` — both ways after every run.
-/

namespace Skirmish

namespace Quadtree

variable {t t' t₁ : Quadtree} {kind : EntityKind} {id : EntityId} {i j : Nat} {n m : Node}
  {e : Entry} {box : Box} {xs ys : List (EntityKind × Entry)}

/-! ### The way to a leaf with room -/

/-- A node that cannot be split is not split. -/
theorem split?_of_not_canSplit (hn : t.nodes[i]? = some n) (can_not : ¬ n.CanSplit) :
    t.split? i = .ok none := by
  rw [Quadtree.split?, node_eq_ok hn, Checked.ok_bind]
  split
  case isFalse => rfl
  case isTrue may =>
    -- it is large enough, so the half-extents are odd
    obtain ⟨-, level, large⟩ := may
    have odd : n.area.half.x % 2 ≠ 0 ∨ n.area.half.y % 2 ≠ 0 := by
      by_contra even
      rw [not_or, not_not, not_not] at even
      exact can_not ⟨level, large, even⟩
    rw [Box.quarters?, if_pos (.inr (.inr odd))]
    rfl

/-- The way down to a leaf with room that covers the box, from any node above it. -/
theorem Entered.seek_of_room {turns : Nat} (h : t.Entered j turns box) (points : ¬ box.IsEmpty)
    (hn : t.nodes[i]? = some n) (leaf : n.isLeaf) (covers : n.area.Covers box)
    (room : t.HasRoom i) : t.seek box turns j = .ok (i, t) := by
  induction turns generalizing j with
  | zero => exact absurd h.turns_pos (Nat.lt_irrefl 0)
  | succ turns ih =>
    have s := h.sound
    obtain ⟨m, hm, covers_j, -⟩ := h.node
    have here (takes : t.Takes j box) : j = i :=
      s.eq_of_takes_of_isLeaf points takes hn leaf covers
    have turned := fun {turn : Turn} => h.turn.of_eq_ok (a := turn)
    cases hf : m.firstQuarter with
    | some first =>
      rcases s.quarterFor?_cases hm hf box with ⟨k, -, found, -⟩ | ⟨none, lowest⟩
      · have next : t.turn box j = .ok (.descend k) := by
          simp only [Quadtree.turn, node_eq_ok hm, Checked.ok_bind, hf, found]
        rw [Quadtree.seek, next, Checked.ok_bind]
        exact ih (turned next)
      · -- a split node would take the box, but the leaf does
        obtain rfl := here ⟨⟨m, hm, covers_j⟩, lowest⟩
        obtain rfl : m = n := Option.some.inj (hm.symm.trans hn)
        simp [Node.isLeaf, hf] at leaf
    | none =>
      have leaf_j : m.isLeaf := by simp [Node.isLeaf, hf]
      obtain rfl := here (takes_of_isLeaf hm leaf_j covers_j)
      have arrived : t.turn box j = .ok .arrived := by
        simp only [Quadtree.turn, node_eq_ok hm, Checked.ok_bind, hf]
        split
        case isFalse => rfl
        case isTrue full =>
          have can_not (can : m.CanSplit) : False :=
            Nat.not_lt.mpr full (room m hm leaf_j can)
          rw [split?_of_not_canSplit hm can_not, Checked.ok_bind]
      rw [Quadtree.seek, arrived, Checked.ok_bind]

/-- A new entry put into an index with a leaf for it that has room. -/
theorem Sound.put_of_room (s : t.Sound) (points : ¬ e.box.IsEmpty) (hn : t.nodes[i]? = some n)
    (leaf : n.isLeaf) (covers : n.area.Covers e.box) (room : t.HasRoom i)
    (new : t.lookup? kind e.id = none) (still : kind = .particle → e.mobile = false) :
    ∃ t', t.put kind e = .ok (true, t') ∧ t.Rebinds t' kind e.id (some e) ∧
      t'.frames = t.frames := by
  have covered : t.area.Covers e.box := (s.root_covers hn).trans covers
  have sought := (s.entered_root covered).seek_of_room points hn leaf covers room
  have put : t.put kind e = .ok (true, t.shelve kind e i) := by
    have not_filed : ¬ t.contains kind e.id := by rw [s.contains_eq, new]; nofun
    rw [Quadtree.put, if_pos covered, if_neg not_filed, sought, Checked.ok_bind]
  obtain ⟨-, rebinds⟩ := (s.put covered new still).of_eq_ok put
  have refiling := s.refiling_shelve hn (takes_of_isLeaf hn leaf covers)
    (s.lookup?_eq_none_iff.mp new) still
  exact ⟨_, put, rebinds, refiling.frames⟩

/-- The leaf that held an entry has room when the entry is gone. -/
theorem Balanced.hasRoom_of_unbind (h : t.Balanced xs ys) (hn : t.nodes[i]? = some n)
    (he : e ∈ n.entries kind) (rebinds : t.Rebinds t' kind e.id none)
    (frames : t'.frames = t.frames) : t'.HasRoom i := by
  intro m hm leaf' can
  obtain ⟨n', hn', frame⟩ := exists_of_frames_eq frames hm
  obtain rfl : n = n' := Option.some.inj (hn.symm.trans hn')
  have leaf : n.isLeaf := Node.isLeaf_eq_of_frame_eq frame ▸ leaf'
  obtain ⟨filed, old⟩ := (h.files.mem_entries_iff h.sound hn leaf).mp he
  have h' := h.unbind rebinds frames
  calc m.size = load (without kind e.id xs) m.area := h'.files.size_eq_load h'.sound hm leaf'
    _ = load (without kind e.id xs) n.area := by rw [(Node.frame_eq_iff.mp frame).1]
    _ < load xs n.area := load_without_lt filed old
    _ ≤ t.capacity := h.leaves hn leaf ((Node.canSplit_iff_of_frame_eq frame).mp can)
    _ = t'.capacity := rebinds.capacity.symm

/-! ### What determines an index but for the order -/

/-- Two indexes that differ in the order of entries within a node at most. -/
structure SameButOrder (t t' : Quadtree) : Prop where
  capacity : t'.capacity = t.capacity
  /-- At every place there is a node with the same area, level and quarters. -/
  frames : t'.frames = t.frames
  homes : ∀ kind, t'.homes kind = t.homes kind
  entries : ∀ {i : Nat} {n n' : Node}, t.nodes[i]? = some n → t'.nodes[i]? = some n' →
    ∀ kind, (n'.entries kind).Perm (n.entries kind)
  walkers : ∀ {i : Nat} {n n' : Node}, t.nodes[i]? = some n → t'.nodes[i]? = some n' →
    n'.walkers.Perm n.walkers

/-- One node takes a box with points in it. -/
theorem Shape.takes_unique (s : t.Shape) (points : ¬ box.IsEmpty) (hi : t.Takes i box)
    (hj : t.Takes j box) : i = j := by
  obtain ⟨n, hn, covers_i⟩ := hi.covers
  obtain ⟨m, hm, covers_j⟩ := hj.covers
  have below := s.within_of_takes points hi hm covers_j
  have above := s.within_of_takes points hj hn covers_i
  have level := Nat.le_antisymm (s.level_le_of_within above hn hm) (s.level_le_of_within below hm hn)
  exact s.eq_of_covers points hn hm level covers_i covers_j

/-- The frames and the boxes determine the place of an entry. -/
theorem Sound.mem_entries_of_frames_eq (s : t.Sound) (s' : t'.Sound)
    (points : ∀ {k e}, t.Holds k e → ¬ e.box.IsEmpty) (frames : t'.frames = t.frames)
    (same : ∀ {k e}, t'.Holds k e ↔ t.Holds k e) {n' : Node} (hn : t.nodes[i]? = some n)
    (hn' : t'.nodes[i]? = some n') : e ∈ n'.entries kind ↔ e ∈ n.entries kind := by
  constructor
  · intro he'
    obtain ⟨j, m, hm, he⟩ := same.mp ⟨i, n', hn', he'⟩
    obtain rfl : j = i := s.takes_unique (points ⟨j, m, hm, he⟩) (s.takes hm he)
      ((s'.takes hn' he').congr frames.symm)
    rwa [Option.some.inj (hn.symm.trans hm)]
  · intro he
    obtain ⟨j, m, hm, he'⟩ := same.mpr ⟨i, n, hn, he⟩
    obtain rfl : j = i := s'.takes_unique (points ⟨i, n, hn, he⟩) (s'.takes hm he')
      ((s.takes hn he).congr frames)
    rwa [Option.some.inj (hn'.symm.trans hm)]

/-- What is held and the frames determine a sound index but for the order. -/
theorem Sound.sameButOrder (s : t.Sound) (s' : t'.Sound)
    (points : ∀ {k e}, t.Holds k e → ¬ e.box.IsEmpty) (capacity : t'.capacity = t.capacity)
    (frames : t'.frames = t.frames) (same : ∀ {k e}, t'.Holds k e ↔ t.Holds k e) :
    t.SameButOrder t' := by
  have mem {i : Nat} {n n' : Node} (hn : t.nodes[i]? = some n) (hn' : t'.nodes[i]? = some n')
      {kind : EntityKind} {e : Entry} : e ∈ n'.entries kind ↔ e ∈ n.entries kind :=
    s.mem_entries_of_frames_eq s' points frames same hn hn'
  have entries {i : Nat} {n n' : Node} (hn : t.nodes[i]? = some n) (hn' : t'.nodes[i]? = some n')
      (kind : EntityKind) : (n'.entries kind).Perm (n.entries kind) := by
    rw [List.perm_ext_iff_of_nodup (((s'.tidy hn').nodup kind).of_map _)
      (((s.tidy hn).nodup kind).of_map _)]
    exact fun e => mem hn hn'
  refine ⟨capacity, frames, fun kind => ?_, entries, fun hn hn' => ?_⟩
  · apply Std.ExtTreeMap.ext_getElem?
    intro id
    apply Option.ext
    intro i
    rw [s'.home_iff, s.home_iff]
    constructor
    · rintro ⟨n', hn', e, he, hid⟩
      obtain ⟨n, hn, -⟩ := exists_of_frames_eq frames hn'
      exact ⟨n, hn, e, (mem hn hn').mp he, hid⟩
    · rintro ⟨n, hn, e, he, hid⟩
      obtain ⟨n', hn', -⟩ := exists_of_frames_eq frames.symm hn
      exact ⟨n', hn', e, (mem hn hn').mpr he, hid⟩
  · exact (s'.tidy hn').walkers.trans
      ((((entries hn hn' .unit).filter _).map _).trans (s.tidy hn).walkers.symm)

/-! ### Both ways -/

/-- An entry that is removed and filed anew under a box that its leaf covers. -/
theorem Balanced.exists_anew (h : t.Balanced xs ys) (points : ¬ box.IsEmpty)
    (hn : t.nodes[i]? = some n) (leaf : n.isLeaf) (he : e ∈ n.entries kind)
    (covers : n.area.Covers box) :
    ∃ t₂ t₃, t.erase kind e.id = .ok (true, t₂) ∧ t₂.put kind { e with box } = .ok (true, t₃) ∧
      t.Rebinds t₃ kind e.id (some { e with box }) ∧ t₃.frames = t.frames := by
  have found : t.lookup? kind e.id = some e := h.sound.holds_iff.mp ⟨i, n, hn, he⟩
  obtain ⟨t₂, removed, rebinds₂, frames₂⟩ := h.sound.remove?_of_filed found
  have erased : t.erase kind e.id = .ok (true, t₂) := by
    rw [Quadtree.erase, removed, Checked.ok_bind]
  -- the leaf is still there and has room
  obtain ⟨n₂, hn₂, frame⟩ := exists_of_frames_eq frames₂.symm hn
  have leaf₂ : n₂.isLeaf := Node.isLeaf_eq_of_frame_eq frame ▸ leaf
  have covers₂ : n₂.area.Covers box := (Node.frame_eq_iff.mp frame).1 ▸ covers
  have room := h.hasRoom_of_unbind hn he rebinds₂ frames₂
  have new : t₂.lookup? kind e.id = none := by rw [rebinds₂.lookup?_eq, if_pos ⟨rfl, rfl⟩]
  have still (hk : kind = .particle) : e.mobile = false := h.sound.still (hk ▸ found)
  obtain ⟨t₃, put, rebinds₃, frames₃⟩ := rebinds₂.sound.put_of_room (e := { e with box }) points
    hn₂ leaf₂ covers₂ room new still
  exact ⟨t₂, t₃, erased, put, rebinds₂.trans rebinds₃, frames₃.trans frames₂⟩

/-- An entry that gets another box within the leaf that holds it: it is changed in its place, and
removing it and filing it anew comes to the same. -/
theorem Tended.update_in_place (h : t.Tended) (points : ¬ box.IsEmpty)
    (hn : t.nodes[i]? = some n) (leaf : n.isLeaf) (he : e ∈ n.entries kind)
    (covers : n.area.Covers box) :
    ∃ t₁ t₂ t₃, t.update kind e.id box = .ok (true, t₁) ∧ t.erase kind e.id = .ok (true, t₂) ∧
      t₂.put kind { e with box } = .ok (true, t₃) ∧ t₁.SameButOrder t₃ ∧
      t₃.frames = t.frames ∧ (t₃.homes kind)[e.id]? = some i := by
  obtain ⟨xs, ys, h, -⟩ := h
  obtain ⟨m, hm⟩ := Node.exists_rebox? leaf covers he
  obtain ⟨updated, rebinds₁, frames₁⟩ := h.sound.update_of_rebox? hn he hm
  obtain ⟨t₂, t₃, erased, put, rebinds₃, frames₃⟩ := h.exists_anew points hn leaf he covers
  -- both ways the id is bound to the new box, and nothing else has changed
  have same {k : EntityKind} {e' : Entry} :
      t₃.Holds k e' ↔ (t.modifyNode i fun _ => m).Holds k e' := by
    rw [rebinds₃.sound.holds_iff, rebinds₁.sound.holds_iff, rebinds₃.lookup?_eq,
      rebinds₁.lookup?_eq]
  have h₁ := h.rebind hn leaf he covers points rebinds₁ frames₁
  have both : (t.modifyNode i fun _ => m).SameButOrder t₃ :=
    h₁.sound.sameButOrder rebinds₃.sound h₁.files.not_isEmpty
      (rebinds₃.capacity.trans rebinds₁.capacity.symm) (frames₃.trans frames₁.symm) same
  refine ⟨_, t₂, t₃, updated, erased, put, both, frames₃, ?_⟩
  rw [both.homes, homes_modifyNode]
  exact h.sound.home_of_mem hn he

/-- After every run from the empty index, an entity whose box fits the leaf that holds its id can be
filed under the box in two ways: by relocation, and by removal and a new entry.  The indexes differ
in the order of entries within a node at most: nothing is split, and the id stands where it stood. -/
theorem update_in_place_of_run {area : Box} {capacity : Nat} {ops : List Op}
    {replies : List (Option Bool)} (ok : run ops (.empty area capacity) = .ok (replies, t))
    (hn : t.nodes[i]? = some n) (leaf : n.isLeaf) (x : Entity) (he : e ∈ n.entries x.kind)
    (hid : e.id = x.entry.id) (covers : n.area.Covers x.entry.box) :
    ∃ t₁ t₂ t₃, t.update x.kind x.entry.id x.entry.box = .ok (true, t₁) ∧
      t.erase x.kind x.entry.id = .ok (true, t₂) ∧
      t₂.put x.kind { e with box := x.entry.box } = .ok (true, t₃) ∧ t₁.SameButOrder t₃ ∧
      t₃.frames = t.frames ∧ (t₃.homes x.kind)[x.entry.id]? = some i := by
  obtain ⟨h, -⟩ := tended_of_run ok
  rw [← hid]
  exact h.update_in_place x.not_isEmpty hn leaf he covers

/-- Two particles that fill a leaf, and a unit beyond the middle line that has split the root. -/
def fullLeaf : List Op :=
  [.put (.particle (.debris ⟨1⟩ ⟨20, 20⟩ 1)), .put (.particle (.debris ⟨2⟩ ⟨44, 20⟩ 1)),
    .put (.unit (.villager ⟨1⟩ ⟨100, 100⟩ 1))]

/-- The first particle goes on within the full leaf. -/
theorem update_in_place_of_fullLeaf : ∃ replies t t₁ t₂ t₃,
    run fullLeaf (.empty ⟨⟨64, 64⟩, ⟨64, 64⟩⟩ 2) = .ok (replies, t) ∧ t.nodeCount = 5 ∧
      t.update .particle ⟨1⟩ ⟨⟨20, 44⟩, ⟨4, 4⟩⟩ = .ok (true, t₁) ∧
      t.erase .particle ⟨1⟩ = .ok (true, t₂) ∧
      t₂.put .particle ⟨⟨1⟩, ⟨⟨20, 44⟩, ⟨4, 4⟩⟩, false⟩ = .ok (true, t₃) ∧
      t₁.SameButOrder t₃ ∧ t₃.frames = t.frames := by
  let e₁ : Entry := ⟨⟨1⟩, ⟨⟨20, 20⟩, ⟨4, 4⟩⟩, false⟩
  let e₂ : Entry := ⟨⟨2⟩, ⟨⟨44, 20⟩, ⟨4, 4⟩⟩, false⟩
  let n : Node := { Node.leaf ⟨⟨32, 32⟩, ⟨32, 32⟩⟩ 1 with particles := [e₁, e₂] }
  have after : (run fullLeaf (.empty ⟨⟨64, 64⟩, ⟨64, 64⟩⟩ 2)).map
      (fun r => (r.2.nodeCount, r.2.nodes[1]?)) = .ok (5, some n) := by
    decide +kernel
  obtain ⟨⟨replies, t⟩, ok, eq⟩ := Checked.map_eq_ok_iff.mp after
  obtain ⟨count, hn⟩ := Prod.mk.inj eq
  obtain ⟨t₁, t₂, t₃, updated, erased, put, same, frames, -⟩ :=
    update_in_place_of_run ok hn rfl (.particle (.debris ⟨1⟩ ⟨20, 44⟩ 1)) (e := e₁) (by decide) rfl
      (by decide +kernel)
  exact ⟨replies, t, t₁, t₂, t₃, ok, count, updated, erased, put, same, frames⟩

end Quadtree

end Skirmish
