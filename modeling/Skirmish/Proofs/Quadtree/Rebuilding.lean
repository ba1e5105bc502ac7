import Skirmish.Proofs.Quadtree.History

/-!
# Rebuilding forgets the history

Entries are listed in the order of their ids, so the list follows from the set of the entries.  An
index is rebuilt from that list, its area and its capacity alone; so indexes that hold the same
become one and the same, whatever has happened to them.  A rebuilt index has split just the nodes
that are crowded by what it holds.  In the index before these were split as well, for a crowded leaf
would break its bound; so no nodes are gained.

## Main definitions

* `Quadtree.Rebuilt` — an index and what is left of it when it is rebuilt.

## Main results

* `Sound.listed_eq`, `Sound.rebuild_eq` — what is held determines the list and the rebuilt index.
* `Tended.rebuilt` — a rebuilt index holds the same in no more nodes.
* `rebuild_of_run` — indexes after any two runs that hold the same are rebuilt to one index.
-/

namespace Skirmish

namespace Quadtree

variable {t t' : Quadtree} {i : Nat} {n : Node} {xs ys zs : List (EntityKind × Entry)}

/-! ### One list, one index -/

/-- The entries are listed in strictly ascending order of the ids. -/
theorem Sound.ascending_listed (s : t.Sound) (kind : EntityKind) :
    (t.listed kind).Pairwise fun a b => a.id.number < b.id.number := by
  refine EntityId.pairwise_mergeSort Entry.id ?_
  rw [List.map_flatMap]
  exact s.nodup_ids kind

/-- Sound indexes that hold the same list the same. -/
theorem Sound.listed_eq (s : t.Sound) (s' : t'.Sound)
    (same : ∀ {k e}, t'.Holds k e ↔ t.Holds k e) (kind : EntityKind) :
    t'.listed kind = t.listed kind := by
  have perm : (t'.listed kind).Perm (t.listed kind) := by
    rw [List.perm_ext_iff_of_nodup ((s'.nodup_listed kind).of_map _)
      ((s.nodup_listed kind).of_map _)]
    intro e
    rw [Sound.mem_listed, Sound.mem_listed, same]
  refine perm.eq_of_pairwise ?_ (s'.ascending_listed kind) (s.ascending_listed kind)
  intro a b _ _ lt gt
  exact absurd (UInt32.lt_trans lt gt) (UInt32.lt_irrefl _)

/-- Sound indexes that hold the same are rebuilt to the same index. -/
theorem Sound.rebuild_eq (s : t.Sound) (s' : t'.Sound) (same : t.SameFiling t') :
    t'.rebuild = t.rebuild := by
  have listed := s.listed_eq s' same.holds_iff
  rw [Quadtree.rebuild, Quadtree.rebuild, clear, clear, same.area, same.capacity, listed, listed]

theorem Sound.held_eq (s : t.Sound) (s' : t'.Sound) (same : t.SameFiling t') :
    t'.held = t.held :=
  congrArg pooled (funext (s.listed_eq s' same.holds_iff))

/-! ### No more nodes -/

/-- The bound of the leaves depends on what is held alone. -/
theorem Balanced.of_files (h : t.Balanced xs ys) (f : t.Files zs) : t.Balanced zs ys := by
  refine ⟨⟨fun hn leaf can => ?_, h.splits⟩, h.sound, f⟩
  rw [← f.size_eq_load h.sound hn leaf, h.files.size_eq_load h.sound hn leaf]
  exact h.leaves hn leaf can

theorem Balanced.files_held (h : t.Balanced xs ys) : t.Files t.held where
  nodup := nodup_pooled fun kind => (h.sound.nodup_listed kind).of_map _
  points := by
    rintro ⟨k, e⟩ mem
    exact h.files.not_isEmpty (mem_held.mp mem)
  holds_iff {k e} := by
    rw [mem_held, and_iff_left_of_imp h.sound.area_covers]

/-- An index and what is left of it when it is rebuilt. -/
structure Rebuilt (t t' : Quadtree) : Prop where
  area : t'.area = t.area
  capacity : t'.capacity = t.capacity
  /-- Every entry is kept, with its box and whether it can walk. -/
  lookup?_eq : ∀ kind id, t'.lookup? kind id = t.lookup? kind id
  nodeCount_le : t'.nodeCount ≤ t.nodeCount
  depth_le : t'.depth ≤ t.depth
  /-- The nodes that are split are those that can be and that cover more boxes than the capacity. -/
  split_iff : ∀ n ∈ t'.nodes, ¬ n.isLeaf ↔ n.CanSplit ∧ t'.capacity < load t'.held n.area

/-- A rebuilt index holds the same in no more nodes, and is not changed when it is rebuilt again. -/
theorem Tended.rebuilt (h : t.Tended) (ok : t.rebuild = .ok t') :
    t.Rebuilt t' ∧ t'.rebuild = .ok t' := by
  have s := h.sound
  obtain ⟨xs, ys, h, -⟩ := h
  obtain ⟨s', same⟩ := s.rebuild.of_eq_ok ok
  have h' := h.rebuild ok
  have coarser : t'.Coarser t := h'.coarser (h.of_files h.files_held) same.area same.capacity
  refine ⟨⟨same.area, same.capacity, fun kind id => ?_, coarser.nodeCount_le s'.toShape,
    coarser.depth_le, fun n mem => ?_⟩, (s.rebuild_eq s' same).trans ok⟩
  · exact s.lookup?_congr s' fun k e => same.holds_iff
  · obtain ⟨i, hn⟩ := Array.mem_iff_getElem?.mp mem
    rw [s.held_eq s' same]
    exact h'.split_iff hn

/-- After every run from the empty index over an exact area, the index can be rebuilt: it keeps its
entries, gains neither nodes nor depth, and has split just the nodes that are crowded.  The result
follows from the area, the capacity and the entries: any index with the same ones is rebuilt to it,
and so is the result itself. -/
theorem rebuild_of_run {area : Box} {capacity : Nat} {ops : List Op} {replies : List (Option Bool)}
    (exact : area.Exact) (ok : run ops (.empty area capacity) = .ok (replies, t)) :
    ∃ t', t.rebuild = .ok t' ∧ t.Rebuilt t' ∧ t'.rebuild = .ok t' ∧
      ∀ (area₂ : Box) (capacity₂ : Nat) (ops₂ : List Op) (replies₂ : List (Option Bool))
        (t₂ : Quadtree), run ops₂ (.empty area₂ capacity₂) = .ok (replies₂, t₂) →
          t₂.area = t.area → t₂.capacity = t.capacity →
          (∀ kind id, t₂.lookup? kind id = t.lookup? kind id) → t₂.rebuild = .ok t' := by
  obtain ⟨h, rfl, -⟩ := tended_of_run ok
  obtain ⟨t', rebuilt, -⟩ := h.sound.rebuild.exists_ok (not_not_intro exact)
  obtain ⟨left, again⟩ := h.rebuilt rebuilt
  refine ⟨t', rebuilt, left, again, ?_⟩
  intro area₂ capacity₂ ops₂ replies₂ t₂ ok₂ harea hcapacity map
  obtain ⟨h₂, -⟩ := tended_of_run ok₂
  have same : t.SameFiling t₂ := by
    refine ⟨harea, hcapacity, fun {k e} => ?_⟩
    rw [h₂.sound.holds_iff, h.sound.holds_iff, map]
  rw [h.sound.rebuild_eq h₂.sound same, rebuilt]

/-- Two particles in one place split the area down to the smallest leaf; then one of them leaves and
the other one moves on. -/
def detour : List Op :=
  [.put (.particle (.debris ⟨1⟩ ⟨20, 20⟩ 1)), .put (.particle (.debris ⟨2⟩ ⟨20, 20⟩ 1)),
    .erase .particle ⟨2⟩, .update (.particle (.debris ⟨1⟩ ⟨100, 100⟩ 1))]

/-- The particle that is left, put where it ends. -/
def straight : List Op := [.put (.particle (.debris ⟨1⟩ ⟨100, 100⟩ 1))]

theorem rebuild_of_detour : ∃ replies replies₂ t t₂ t',
    run detour (.empty ⟨⟨64, 64⟩, ⟨64, 64⟩⟩ 1) = .ok (replies, t) ∧
      run straight (.empty ⟨⟨64, 64⟩, ⟨64, 64⟩⟩ 1) = .ok (replies₂, t₂) ∧
      t.nodeCount = 17 ∧ t₂.nodeCount = 1 ∧
      t.rebuild = .ok t' ∧ t₂.rebuild = .ok t' ∧ t.Rebuilt t' ∧ t'.rebuild = .ok t' := by
  have exact : Box.Exact ⟨⟨64, 64⟩, ⟨64, 64⟩⟩ := by
    constructor <;> decide
  let view (r : List (Option Bool) × Quadtree) : Nat × Box × Nat × List (EntityKind × Entry) :=
    (r.2.nodeCount, r.2.area, r.2.capacity, r.2.held)
  let left : Entry := ⟨⟨1⟩, ⟨⟨100, 100⟩, ⟨4, 4⟩⟩, false⟩
  have after : (run detour (.empty ⟨⟨64, 64⟩, ⟨64, 64⟩⟩ 1)).map view =
      .ok (17, ⟨⟨64, 64⟩, ⟨64, 64⟩⟩, 1, [(.particle, left)]) := by
    decide +kernel
  have after₂ : (run straight (.empty ⟨⟨64, 64⟩, ⟨64, 64⟩⟩ 1)).map view =
      .ok (1, ⟨⟨64, 64⟩, ⟨64, 64⟩⟩, 1, [(.particle, left)]) := by
    decide +kernel
  obtain ⟨⟨replies, t⟩, ok, eq⟩ := Checked.map_eq_ok_iff.mp after
  obtain ⟨⟨replies₂, t₂⟩, ok₂, eq₂⟩ := Checked.map_eq_ok_iff.mp after₂
  obtain ⟨count, area, capacity, held⟩ :
      t.nodeCount = 17 ∧ t.area = _ ∧ t.capacity = 1 ∧ t.held = _ := by
    simpa [view] using eq
  obtain ⟨count₂, area₂, capacity₂, held₂⟩ :
      t₂.nodeCount = 1 ∧ t₂.area = _ ∧ t₂.capacity = 1 ∧ t₂.held = _ := by
    simpa [view] using eq₂
  have map (kind : EntityKind) (id : EntityId) : t₂.lookup? kind id = t.lookup? kind id := by
    refine (tended_of_run ok).1.sound.lookup?_congr (tended_of_run ok₂).1.sound fun k e => ?_
    rw [← mem_held, ← mem_held, held, held₂]
  obtain ⟨t', rebuilt, shrunk, again, only⟩ := rebuild_of_run exact ok
  exact ⟨replies, replies₂, t, t₂, t', ok, ok₂, count, count₂, rebuilt,
    only _ _ _ _ t₂ ok₂ (area₂.trans area.symm) (capacity₂.trans capacity.symm) map, shrunk, again⟩

end Quadtree

end Skirmish
