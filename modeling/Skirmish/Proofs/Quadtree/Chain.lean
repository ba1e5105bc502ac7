import Mathlib.Data.List.Perm.Subperm
import Skirmish.Proofs.Quadtree.Filing

/-!
# The nodes that cover a box

The nodes that cover a box with points in it make a chain: there is one of them on each level from
the root down to the node that takes the box.  So a node is known by its level and its area, two
indexes over one area are compared by them, and a box stands over the same area in any two indexes
with the same nodes.

## Main definitions

* `Quadtree.signature` — the levels and areas of all nodes.
* `Quadtree.Coarser t t'` — every node of `t` is a node of `t'`, up to what is filed there.

## Main results

* `Shape.within_of_takes` — the nodes that cover a box lie above the one that takes it.
* `Shape.eq_of_covers` — one node on each level covers a box.
* `Shape.nodup_signature` — no two nodes have the same level and area.
* `Coarser.nodeCount_le`, `Coarser.depth_le` — a coarser index is no larger.
* `Coarser.area_eq_of_takes` — a box stands over the same area in indexes with the same nodes.
* `Shape.coarser` — an index is coarser than another one if its nodes are split only where those of
  the other one are.
-/

namespace Skirmish

namespace Quadtree

variable {t t' : Quadtree} {i j k : Nat} {n m : Node} {box : Box}

/-! ### One chain of nodes -/

theorem Shape.level_of_hasQuarter (s : t.Shape) (h : t.HasQuarter i j) (hn : t.nodes[i]? = some n)
    (hm : t.nodes[j]? = some m) : m.level = n.level + 1 := by
  obtain ⟨n', first, hn', hf, le, lt⟩ := h
  obtain rfl : n = n' := Option.some.inj (hn.symm.trans hn')
  obtain ⟨q, m', -, hm', -, hlevel⟩ := s.exists_quarter hn hf le lt
  rwa [Option.some.inj (hm.symm.trans hm')]

theorem Shape.not_isEmpty_of_hasQuarter (s : t.Shape) (h : t.HasQuarter i j)
    (hm : t.nodes[j]? = some m) : ¬ m.area.IsEmpty := by
  obtain ⟨n, first, hn, hf, le, lt⟩ := h
  obtain ⟨q, m', -, hm', quarter, -⟩ := s.exists_quarter hn hf le lt
  rw [Option.some.inj (hm.symm.trans hm')]
  exact quarter.not_isEmpty

/-- A node is a leaf when it has no quarters. -/
theorem isLeaf_iff (hn : t.nodes[i]? = some n) :
    n.isLeaf ↔ ∀ j, ¬ t.HasQuarter i j := by
  rw [Node.isLeaf, Option.isNone_iff_eq_none]
  constructor
  · intro leaf j hij
    obtain ⟨n', first, hn', hf, -⟩ := hij
    obtain rfl : n = n' := Option.some.inj (hn.symm.trans hn')
    rw [leaf] at hf
    cases hf
  · intro none
    cases hf : n.firstQuarter with
    | none => rfl
    | some first => exact absurd ⟨n, first, hn, hf, Nat.le_refl first, by omega⟩ (none first)

/-- Only one quarter of a node covers a box with points in it. -/
theorem Shape.quarter_unique (s : t.Shape) (points : ¬ box.IsEmpty) {m' : Node}
    (hij : t.HasQuarter i j) (hm : t.nodes[j]? = some m) (covers : m.area.Covers box)
    (hik : t.HasQuarter i k) (hm' : t.nodes[k]? = some m') (covers' : m'.area.Covers box) :
    j = k := by
  obtain ⟨n, first, hn, hf, le, lt⟩ := hij
  obtain ⟨n', first', hn', hf', le', lt'⟩ := hik
  obtain rfl : n = n' := Option.some.inj (hn.symm.trans hn')
  obtain rfl : first = first' := Option.some.inj (hf.symm.trans hf')
  obtain ⟨q, m₁, hj, hm₁, quarter, -⟩ := s.exists_quarter hn hf le lt
  obtain ⟨q', m₂, hk, hm₂, quarter', -⟩ := s.exists_quarter hn hf le' lt'
  obtain rfl : m = m₁ := Option.some.inj (hm.symm.trans hm₁)
  obtain rfl : m' = m₂ := Option.some.inj (hm'.symm.trans hm₂)
  rw [hj, hk, quarter.eq_of_covers quarter' points covers covers']

/-- The nodes that cover a box lie above the one that takes it. -/
theorem Shape.within_of_takes (s : t.Shape) (points : ¬ box.IsEmpty) (takes : t.Takes i box)
    (hm : t.nodes[j]? = some m) (covers : m.area.Covers box) :
    Relation.ReflTransGen t.HasQuarter j i := by
  obtain ⟨n, hn, covers_i⟩ := takes.covers
  have below_root := s.within_root (lt_size_of_nodes hm)
  induction below_root generalizing m with
  | refl => exact s.within_root (lt_size_of_nodes hn)
  | @tail k j _ hkj ih =>
    obtain ⟨m', first, hm', -⟩ := id hkj
    have covers' := (s.covers_of_hasQuarter hkj hm' hm).trans covers
    rcases (ih hm' covers').cases_head with rfl | ⟨k', hkk', below⟩
    · -- the node that takes the box has no quarter that covers it
      exact absurd covers (takes.lowest hkj hm)
    · obtain ⟨m₁, hm₁⟩ : ∃ m₁, t.nodes[k']? = some m₁ :=
        ⟨_, Array.getElem?_eq_getElem (s.lt_size_of_hasQuarter hkk')⟩
      have covers₁ := (s.covers_of_within below hm₁ hn).trans covers_i
      rwa [s.quarter_unique points hkj hm covers hkk' hm₁ covers₁]

theorem Shape.level_le_of_within (s : t.Shape) (h : Relation.ReflTransGen t.HasQuarter i j)
    (hn : t.nodes[i]? = some n) (hm : t.nodes[j]? = some m) : n.level ≤ m.level := by
  induction h generalizing m with
  | refl =>
    obtain rfl : n = m := Option.some.inj (hn.symm.trans hm)
    exact Nat.le_refl _
  | @tail k j _ hkj ih =>
    obtain ⟨m', first, hm', -⟩ := id hkj
    rw [s.level_of_hasQuarter hkj hm' hm]
    exact Nat.le_succ_of_le (ih hm')

/-- A leaf that covers a box takes it, and so does no other node. -/
theorem Shape.eq_of_takes_of_isLeaf (s : t.Shape) (points : ¬ box.IsEmpty) (takes : t.Takes i box)
    (hm : t.nodes[j]? = some m) (leaf : m.isLeaf) (covers : m.area.Covers box) : i = j := by
  rcases (s.within_of_takes points takes hm covers).cases_head with rfl | ⟨k, hjk, -⟩
  · rfl
  · exact absurd hjk ((isLeaf_iff hm).mp leaf k)

/-- One node on each level covers a box. -/
theorem Shape.eq_of_covers (s : t.Shape) (points : ¬ box.IsEmpty) (hn : t.nodes[i]? = some n)
    (hm : t.nodes[j]? = some m) (level : n.level = m.level) (hi : n.area.Covers box)
    (hj : m.area.Covers box) : i = j := by
  have above (j : Nat) (hj : 0 < j) (lt : j < t.nodes.size) :
      ∃ k m, t.HasQuarter k j ∧ t.nodes[k]? = some m := by
    obtain ⟨k, hkj⟩ := s.parent hj lt
    obtain ⟨m, first, hm, -⟩ := id hkj
    exact ⟨k, m, hkj, hm⟩
  have below_root := s.within_root (lt_size_of_nodes hn)
  induction below_root generalizing n j m with
  | refl =>
    rcases Nat.eq_zero_or_pos j with rfl | pos
    · rfl
    · obtain ⟨k, m', hkj, hm'⟩ := above j pos (lt_size_of_nodes hm)
      have := s.level_of_hasQuarter hkj hm' hm
      have : n.level = 0 := by
        rw [← Option.some.inj (t.nodes_zero.symm.trans hn), s.root_level]
      omega
  | @tail k i _ hki ih =>
    obtain ⟨n', first, hn', -⟩ := id hki
    have hlevel := s.level_of_hasQuarter hki hn' hn
    rcases Nat.eq_zero_or_pos j with rfl | pos
    · have : m.level = 0 := by
        rw [← Option.some.inj (t.nodes_zero.symm.trans hm), s.root_level]
      omega
    · obtain ⟨k', m', hkj, hm'⟩ := above j pos (lt_size_of_nodes hm)
      have hlevel' := s.level_of_hasQuarter hkj hm' hm
      obtain rfl : k = k' := ih hn' hm' (by omega)
        ((s.covers_of_hasQuarter hki hn' hn).trans hi)
        ((s.covers_of_hasQuarter hkj hm' hm).trans hj)
      exact s.quarter_unique points hki hn hi hkj hm hj

/-! ### Levels and areas -/

/-- The levels and areas of all nodes. -/
def signature (t : Quadtree) : List (Nat × Box) := t.nodes.toList.map fun n => (n.level, n.area)

theorem mem_signature {level : Nat} {area : Box} : (level, area) ∈ t.signature ↔
    ∃ (i : Nat) (n : Node), t.nodes[i]? = some n ∧ n.level = level ∧ n.area = area := by
  simp only [signature, List.mem_map, Prod.mk.injEq, Array.mem_toList_iff, Array.mem_iff_getElem?]
  constructor
  · rintro ⟨n, ⟨i, hn⟩, eq⟩
    exact ⟨i, n, hn, eq⟩
  · rintro ⟨i, n, hn, eq⟩
    exact ⟨n, ⟨i, hn⟩, eq⟩

/-- No two nodes have the same level and area. -/
theorem Shape.nodup_signature (s : t.Shape) : t.signature.Nodup := by
  rw [signature, List.Nodup, List.pairwise_map, List.pairwise_iff_getElem]
  intro i j hi hj lt eq
  obtain ⟨level, area⟩ := Prod.mk.inj eq
  have hn : t.nodes[i]? = some t.nodes.toList[i] := by simp
  have hm : t.nodes[j]? = some t.nodes.toList[j] := by simp
  -- the later one is a quarter, so its area has points
  obtain ⟨k, hkj⟩ := s.parent (Nat.zero_lt_of_lt lt) (lt_size_of_nodes hm)
  have := s.eq_of_covers (s.not_isEmpty_of_hasQuarter hkj hm) hn hm level
    (area ▸ Box.Covers.refl _) (Box.Covers.refl _)
  omega

/-- The depth is the deepest level of a node. -/
theorem depth_le_iff {d : Nat} : t.depth ≤ d ↔
    ∀ {i : Nat} {n : Node}, t.nodes[i]? = some n → n.level ≤ d := by
  have fold (l : List Node) (b : Nat) :
      l.foldl (fun d n => max d n.level) b ≤ d ↔ b ≤ d ∧ ∀ n ∈ l, n.level ≤ d := by
    induction l generalizing b with
    | nil => simp
    | cons n l ih =>
      rw [List.foldl_cons, ih, Nat.max_le, List.forall_mem_cons, and_assoc]
  rw [depth, ← Array.foldl_toList, fold, and_iff_right (Nat.zero_le d)]
  simp only [Array.mem_toList_iff, Array.mem_iff_getElem?]
  constructor
  · intro h i n hn
    exact h n ⟨i, hn⟩
  · rintro h n ⟨i, hn⟩
    exact h hn

/-! ### Comparing two indexes -/

/-- Every node of an index is a node of another one, up to what is filed there. -/
def Coarser (t t' : Quadtree) : Prop := t.signature ⊆ t'.signature

theorem Coarser.exists_node (h : t.Coarser t') (hn : t.nodes[i]? = some n) :
    ∃ (j : Nat) (m : Node), t'.nodes[j]? = some m ∧ m.level = n.level ∧ m.area = n.area :=
  mem_signature.mp (h (mem_signature.mpr ⟨i, n, hn, rfl, rfl⟩))

/-- A coarser index has no more nodes. -/
theorem Coarser.nodeCount_le (h : t.Coarser t') (s : t.Shape) : t.nodeCount ≤ t'.nodeCount := by
  have := (s.nodup_signature.subperm h).length_le
  simpa [signature, nodeCount] using this

/-- A coarser index is no deeper. -/
theorem Coarser.depth_le (h : t.Coarser t') : t.depth ≤ t'.depth := by
  rw [depth_le_iff]
  intro i n hn
  obtain ⟨j, m, hm, level, -⟩ := h.exists_node hn
  rw [← level]
  exact depth_le_iff.mp (Nat.le_refl _) hm

/-- In a coarser index a box stands no deeper. -/
theorem Coarser.level_le_of_takes (h : t.Coarser t') (s' : t'.Shape) (points : ¬ box.IsEmpty)
    (takes : t.Takes i box) (takes' : t'.Takes j box) (hn : t.nodes[i]? = some n)
    (hm : t'.nodes[j]? = some m) : n.level ≤ m.level := by
  obtain ⟨n', hn', covers⟩ := takes.covers
  obtain rfl : n = n' := Option.some.inj (hn.symm.trans hn')
  obtain ⟨k, m', hm', level, area⟩ := h.exists_node hn
  rw [← level]
  exact s'.level_le_of_within (s'.within_of_takes points takes' hm' (area ▸ covers)) hm' hm

/-- In indexes with the same nodes a box stands over the same area. -/
theorem Coarser.area_eq_of_takes (h : t.Coarser t') (h' : t'.Coarser t) (s : t.Shape)
    (s' : t'.Shape) (points : ¬ box.IsEmpty) (takes : t.Takes i box) (takes' : t'.Takes j box)
    (hn : t.nodes[i]? = some n) (hm : t'.nodes[j]? = some m) : n.area = m.area := by
  have le := h.level_le_of_takes s' points takes takes' hn hm
  have ge := h'.level_le_of_takes s points takes' takes hm hn
  obtain ⟨n', hn', covers⟩ := takes.covers
  obtain rfl : n = n' := Option.some.inj (hn.symm.trans hn')
  obtain ⟨m₁, hm₁, covers'⟩ := takes'.covers
  obtain rfl : m = m₁ := Option.some.inj (hm.symm.trans hm₁)
  -- the node of the second index over the first area is the one that takes the box
  obtain ⟨k, m', hm', level, area⟩ := h.exists_node hn
  obtain rfl : k = j := s'.eq_of_covers points hm' hm (by omega) (area ▸ covers) covers'
  rw [← area, Option.some.inj (hm.symm.trans hm')]

/-- An index is coarser than another one over its area if its nodes are split only where those of
the other one are. -/
theorem Shape.coarser (s : t.Shape) (s' : t'.Shape) (area : t.area = t'.area)
    (splits : ∀ {i j : Nat} {n m : Node}, t.nodes[i]? = some n → t'.nodes[j]? = some m →
      m.level = n.level → m.area = n.area → m.isLeaf → n.isLeaf) : t.Coarser t' := by
  have below_root (i : Nat) (h : Relation.ReflTransGen t.HasQuarter 0 i) {n : Node}
      (hn : t.nodes[i]? = some n) : (n.level, n.area) ∈ t'.signature := by
    induction h generalizing n with
    | refl =>
      obtain rfl : t.root = n := Option.some.inj (t.nodes_zero.symm.trans hn)
      exact mem_signature.mpr
        ⟨0, t'.root, t'.nodes_zero, s'.root_level.trans s.root_level.symm, area.symm⟩
    | @tail k i _ hki ih =>
      -- the node above is a node of the other index, which is split as well
      obtain ⟨n', first, hn', hf, le, lt⟩ := id hki
      obtain ⟨j, m, hm, level, same⟩ := mem_signature.mp (ih hn')
      have split : ¬ n'.isLeaf := by simp [Node.isLeaf, hf]
      have split' : ¬ m.isLeaf := fun leaf => split (splits hn' hm level same leaf)
      obtain ⟨first', hf'⟩ : ∃ first', m.firstQuarter = some first' := by
        simpa [Node.isLeaf, Option.ne_none_iff_exists'] using split'
      -- both have the quarters of one area
      obtain ⟨-, areas, hareas, quarter⟩ := s.quarters hn' hf
      obtain ⟨-, areas', hareas', quarter'⟩ := s'.quarters hm hf'
      rw [same, hareas] at hareas'
      obtain rfl : areas = areas' := by simpa using hareas'
      obtain ⟨q, -, rfl, -⟩ := s.exists_quarter hn' hf le lt
      obtain ⟨n₁, hn₁, harea, hlevel⟩ := quarter q
      obtain ⟨m₁, hm₁, harea', hlevel'⟩ := quarter' q
      obtain rfl : n = n₁ := Option.some.inj (hn.symm.trans hn₁)
      exact mem_signature.mpr
        ⟨_, m₁, hm₁, by rw [hlevel', hlevel, level], harea'.trans harea.symm⟩
  rintro ⟨level, a⟩ mem
  obtain ⟨i, n, hn, rfl, rfl⟩ := mem_signature.mp mem
  exact below_root i (s.within_root (lt_size_of_nodes hn)) hn

end Quadtree

end Skirmish
