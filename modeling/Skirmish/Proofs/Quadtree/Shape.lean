import Mathlib.Logic.Relation
import Skirmish.Proofs.Geometry.Box
import Skirmish.Proofs.Quadtree.Node
import Skirmish.Quadtree.Basic

/-!
# The row of nodes is a tree

The nodes of an index stand in one row and are linked by their places.  The links make a tree: its
root stands first, every other node is a quarter of exactly one split node before it, and the four
quarters of a split node stand next to each other, one level deeper, over the quarters of its area.

A change of entries leaves the frames of all nodes alone and with them the shape; only a split
changes it.

## Main definitions

* `Box.Dividable` — an area that can be divided to the deepest level.
* `Quadtree.HasQuarter t i j` — the node at `j` is a quarter of the node at `i`.
* `Quadtree.splitCount` — the number of split nodes.
* `Quadtree.Shape` — the links make a tree.

## Main results

* `Shape.congr` — the shape depends on the frames alone.
* `Shape.branch` — four quarters more keep the shape.
* `Shape.within_root`, `Shape.covers_of_within` — every node lies below the root, and a node covers
  the nodes below it.
* `Shape.part` — the area of a node is a part of the area that is indexed.
-/

namespace Skirmish

/-- A box is dividable when an index over it finds no fault in dividing: none of its parts that are
large enough, above the deepest level, has quarters outside the coordinate range. -/
def Box.Dividable (b : Box) : Prop :=
  ∀ (level : Nat) (a : Box), b.Part level a → level < Node.maxLevel → Node.minHalf ≤ a.half.x →
    Node.minHalf ≤ a.half.y → ∃ areas, a.quarters? = .ok areas

theorem Box.Exact.dividable {b : Box} (hb : b.Exact) : b.Dividable :=
  fun _ _ part _ _ _ => (hb.part part).quarters?

namespace Quadtree

variable {t t' : Quadtree}

/-! ### Nodes and directories -/

theorem node_eq_ok_iff {i : Nat} {n : Node} : t.node i = .ok n ↔ t.nodes[i]? = some n := by
  unfold node
  cases t.nodes[i]? <;> simp

theorem node_eq_ok {i : Nat} {n : Node} (h : t.nodes[i]? = some n) : t.node i = .ok n :=
  node_eq_ok_iff.mpr h

theorem nodes_zero (t : Quadtree) : t.nodes[0]? = some t.root :=
  Array.getElem?_eq_getElem t.rooted

theorem lt_size_of_nodes {i : Nat} {n : Node} (h : t.nodes[i]? = some n) : i < t.nodes.size :=
  (Array.getElem?_eq_some_iff.mp h).1

@[simp] theorem nodes_setHomes (t : Quadtree) (kind : EntityKind) (homes : EntityId.Table Nat) :
    (t.setHomes kind homes).nodes = t.nodes := by
  cases kind <;> rfl

@[simp] theorem capacity_setHomes (t : Quadtree) (kind : EntityKind)
    (homes : EntityId.Table Nat) : (t.setHomes kind homes).capacity = t.capacity := by
  cases kind <;> rfl

@[simp] theorem homes_setHomes_self (t : Quadtree) (kind : EntityKind)
    (homes : EntityId.Table Nat) : (t.setHomes kind homes).homes kind = homes := by
  cases kind <;> rfl

theorem homes_setHomes_of_ne (t : Quadtree) {kind k : EntityKind} (homes : EntityId.Table Nat)
    (h : k ≠ kind) : (t.setHomes kind homes).homes k = t.homes k := by
  cases kind <;> cases k <;> first | rfl | exact absurd rfl h

@[simp] theorem nodes_modifyNode (t : Quadtree) (i : Nat) (f : Node → Node) :
    (t.modifyNode i f).nodes = t.nodes.modify i f := rfl

@[simp] theorem homes_modifyNode (t : Quadtree) (i : Nat) (f : Node → Node) (kind : EntityKind) :
    (t.modifyNode i f).homes kind = t.homes kind := by
  cases kind <;> rfl

@[simp] theorem capacity_modifyNode (t : Quadtree) (i : Nat) (f : Node → Node) :
    (t.modifyNode i f).capacity = t.capacity := rfl

/-! ### Frames -/

/-- The frames of all nodes: what a change of entries leaves alone. -/
def frames (t : Quadtree) : Array (Box × Nat × Option Nat) := t.nodes.map Node.frame

theorem frames_modifyNode {i : Nat} {f : Node → Node}
    (h : ∀ n, t.nodes[i]? = some n → (f n).frame = n.frame) :
    (t.modifyNode i f).frames = t.frames := by
  apply Array.ext_getElem?
  intro j
  simp only [frames, nodes_modifyNode, Array.getElem?_map, Array.getElem?_modify]
  split
  · next eq =>
    subst eq
    cases hn : t.nodes[i]? with
    | none => rfl
    | some n => simp [h n hn]
  · rfl

/-- Two indexes with the same frames have nodes of the same frames at the same places. -/
theorem exists_of_frames_eq (h : t'.frames = t.frames) {i : Nat} {n' : Node}
    (hn : t'.nodes[i]? = some n') : ∃ n, t.nodes[i]? = some n ∧ n'.frame = n.frame := by
  have at_i := congrArg (fun a => a[i]?) h
  simp only [frames, Array.getElem?_map, hn, Option.map_some] at at_i
  obtain ⟨n, hn, eq⟩ := Option.map_eq_some_iff.mp at_i.symm
  exact ⟨n, hn, eq.symm⟩

theorem size_eq_of_frames_eq (h : t'.frames = t.frames) : t'.nodes.size = t.nodes.size := by
  simpa [frames] using congrArg Array.size h

theorem frame_root_of_frames_eq (h : t'.frames = t.frames) : t'.root.frame = t.root.frame := by
  obtain ⟨n, hn, eq⟩ := exists_of_frames_eq h t'.nodes_zero
  rw [nodes_zero, Option.some.injEq] at hn
  rw [eq, hn]

theorem area_of_frames_eq (h : t'.frames = t.frames) : t'.area = t.area :=
  (Node.frame_eq_iff.mp (frame_root_of_frames_eq h)).1

/-! ### The shape -/

/-- The node at a place is a quarter of the node at another one. -/
def HasQuarter (t : Quadtree) (i j : Nat) : Prop :=
  ∃ n first, t.nodes[i]? = some n ∧ n.firstQuarter = some first ∧ first ≤ j ∧ j < first + 4

/-- The number of split nodes. -/
def splitCount (t : Quadtree) : Nat := t.nodes.countP fun n => !n.isLeaf

/-- The links of the nodes make a tree. -/
structure Shape (t : Quadtree) : Prop where
  root_level : t.root.level = 0
  level_le : ∀ {i : Nat} {n : Node}, t.nodes[i]? = some n → n.level ≤ Node.maxLevel
  /-- The quarters of a split node stand behind it, next to each other and one level deeper, over
  the quarters of its area. -/
  quarters : ∀ {i first : Nat} {n : Node}, t.nodes[i]? = some n → n.firstQuarter = some first →
    i < first ∧ ∃ areas, n.area.quarters? = .ok (some areas) ∧ ∀ q : Quarter,
      ∃ m, t.nodes[first + q.index]? = some m ∧ m.area = areas.get q ∧ m.level = n.level + 1
  parent : ∀ {j : Nat}, 0 < j → j < t.nodes.size → ∃ i, t.HasQuarter i j
  parent_unique : ∀ {i i' j : Nat}, t.HasQuarter i j → t.HasQuarter i' j → i = i'
  count : t.nodes.size = 1 + 4 * t.splitCount

theorem hasQuarter_of_frames_eq (h : t'.frames = t.frames) {i j : Nat}
    (hij : t'.HasQuarter i j) : t.HasQuarter i j := by
  obtain ⟨n', first, hn', hf, le, lt⟩ := hij
  obtain ⟨n, hn, eq⟩ := exists_of_frames_eq h hn'
  exact ⟨n, first, hn, (Node.frame_eq_iff.mp eq).2.2 ▸ hf, le, lt⟩

theorem splitCount_of_frames_eq (h : t'.frames = t.frames) : t'.splitCount = t.splitCount := by
  have eq (t : Quadtree) : t.splitCount = t.frames.countP fun f => !f.2.2.isNone := by
    simp only [splitCount, frames, Array.countP_map]
    rfl
  rw [eq, eq, h]

/-- The shape depends on the frames alone. -/
theorem Shape.congr (s : t.Shape) (h : t'.frames = t.frames) : t'.Shape where
  root_level := by
    rw [(Node.frame_eq_iff.mp (frame_root_of_frames_eq h)).2.1, s.root_level]
  level_le hn' := by
    obtain ⟨n, hn, eq⟩ := exists_of_frames_eq h hn'
    rw [(Node.frame_eq_iff.mp eq).2.1]
    exact s.level_le hn
  quarters {i first n'} hn' hf := by
    obtain ⟨n, hn, eq⟩ := exists_of_frames_eq h hn'
    obtain ⟨area, level, link⟩ := Node.frame_eq_iff.mp eq
    obtain ⟨lt, areas, hq, quarter⟩ := s.quarters hn (link ▸ hf)
    refine ⟨lt, areas, area ▸ hq, fun q => ?_⟩
    obtain ⟨m, hm, harea, hlevel⟩ := quarter q
    obtain ⟨m', hm', eq'⟩ := exists_of_frames_eq h.symm hm
    obtain ⟨area', level', -⟩ := Node.frame_eq_iff.mp eq'
    exact ⟨m', hm', by rw [← area', harea], by rw [← level', hlevel, level]⟩
  parent hj lt := by
    obtain ⟨i, hi⟩ := s.parent hj (size_eq_of_frames_eq h ▸ lt)
    exact ⟨i, hasQuarter_of_frames_eq h.symm hi⟩
  parent_unique hi hi' :=
    s.parent_unique (hasQuarter_of_frames_eq h hi) (hasQuarter_of_frames_eq h hi')
  count := by
    rw [size_eq_of_frames_eq h, splitCount_of_frames_eq h, s.count]

theorem shape_single (area : Box) (capacity : Nat) : (single area capacity).Shape where
  root_level := rfl
  level_le {i n} hn := by
    obtain ⟨lt, rfl⟩ := Array.getElem?_eq_some_iff.mp hn
    have : i = 0 := by simpa [single] using lt
    subst this
    exact Nat.zero_le _
  quarters {i first n} hn hf := by
    obtain ⟨lt, rfl⟩ := Array.getElem?_eq_some_iff.mp hn
    have : i = 0 := by simpa [single] using lt
    subst this
    simp [single, Node.leaf] at hf
  parent {j} hj lt := by simp [single] at lt; omega
  parent_unique {i i' j} hi := by
    obtain ⟨n, first, hn, hf, -⟩ := hi
    obtain ⟨lt, rfl⟩ := Array.getElem?_eq_some_iff.mp hn
    have : i = 0 := by simpa [single] using lt
    subst this
    simp [single, Node.leaf] at hf
  count := rfl

section

variable {i j : Nat}

theorem Shape.lt_of_hasQuarter (s : t.Shape) (h : t.HasQuarter i j) : i < j := by
  obtain ⟨n, first, hn, hf, le, -⟩ := h
  exact Nat.lt_of_lt_of_le (s.quarters hn hf).1 le

/-- The node of a quarter. -/
theorem Shape.exists_quarter (s : t.Shape) {n : Node} {first : Nat} (hn : t.nodes[i]? = some n)
    (hf : n.firstQuarter = some first) (le : first ≤ j) (lt : j < first + 4) :
    ∃ q m, j = first + q.index ∧ t.nodes[j]? = some m ∧ n.area.IsQuarter q m.area ∧
      m.level = n.level + 1 := by
  obtain ⟨q, hq⟩ := Quarter.exists_index_eq (Nat.sub_lt_left_of_lt_add le lt)
  obtain ⟨-, areas, hareas, quarter⟩ := s.quarters hn hf
  obtain ⟨m, hm, harea, hlevel⟩ := quarter q
  have hj : j = first + q.index := by omega
  exact ⟨q, m, hj, hj ▸ hm, harea ▸ Box.isQuarter_get hareas q, hlevel⟩

theorem Shape.lt_size_of_hasQuarter (s : t.Shape) (h : t.HasQuarter i j) : j < t.nodes.size := by
  obtain ⟨n, first, hn, hf, le, lt⟩ := h
  obtain ⟨q, m, -, hm, -⟩ := s.exists_quarter hn hf le lt
  exact lt_size_of_nodes hm

/-- A split node stands above the deepest level. -/
theorem Shape.level_lt (s : t.Shape) {n : Node} (hn : t.nodes[i]? = some n)
    (split : ¬ n.isLeaf) : n.level < Node.maxLevel := by
  obtain ⟨first, hf⟩ : ∃ first, n.firstQuarter = some first := by
    simpa [Node.isLeaf, Option.ne_none_iff_exists'] using split
  obtain ⟨q, m, -, hm, -, hlevel⟩ :=
    s.exists_quarter hn hf (Nat.le_refl first) (Nat.lt_add_of_pos_right (by decide))
  have := s.level_le hm
  omega

/-- A node covers its quarters. -/
theorem Shape.covers_of_hasQuarter (s : t.Shape) (h : t.HasQuarter i j) {n m : Node}
    (hn : t.nodes[i]? = some n) (hm : t.nodes[j]? = some m) : n.area.Covers m.area := by
  obtain ⟨n', first, hn', hf, le, lt⟩ := h
  obtain rfl : n' = n := Option.some.inj (hn'.symm.trans hn)
  obtain ⟨q, m', -, hm', hq, -⟩ := s.exists_quarter hn hf le lt
  obtain rfl : m' = m := Option.some.inj (hm'.symm.trans hm)
  exact hq.covers

/-! ### Below a node -/

/-- Every node lies below the root. -/
theorem Shape.within_root (s : t.Shape) : j < t.nodes.size →
    Relation.ReflTransGen t.HasQuarter 0 j := by
  induction j using Nat.strongRecOn with
  | _ j ih =>
    intro lt
    rcases Nat.eq_zero_or_pos j with rfl | pos
    · exact .refl
    · obtain ⟨i, hi⟩ := s.parent pos lt
      have := s.lt_of_hasQuarter hi
      exact .tail (ih i this (Nat.lt_trans this lt)) hi

/-- A node covers the nodes below it. -/
theorem Shape.covers_of_within (s : t.Shape) (h : Relation.ReflTransGen t.HasQuarter i j)
    {n m : Node} (hn : t.nodes[i]? = some n) (hm : t.nodes[j]? = some m) :
    n.area.Covers m.area := by
  induction h generalizing m with
  | refl =>
    obtain rfl : n = m := Option.some.inj (hn.symm.trans hm)
    exact Box.Covers.refl _
  | @tail k j hik hkj ih =>
    obtain ⟨m', first, hm', -⟩ := id hkj
    exact (ih hm').trans (s.covers_of_hasQuarter hkj hm' hm)

/-- The root covers every node. -/
theorem Shape.root_covers (s : t.Shape) {n : Node} (hn : t.nodes[i]? = some n) :
    t.area.Covers n.area :=
  s.covers_of_within (s.within_root (lt_size_of_nodes hn)) t.nodes_zero hn

/-- The area of a node is the part of the root's area that its level says. -/
theorem Shape.part (s : t.Shape) {n : Node} (hn : t.nodes[i]? = some n) :
    t.area.Part n.level n.area := by
  have key (hi : Relation.ReflTransGen t.HasQuarter 0 i) : t.area.Part n.level n.area := by
    induction hi generalizing n with
    | refl =>
      obtain rfl : t.root = n := Option.some.inj (t.nodes_zero.symm.trans hn)
      rw [s.root_level]
      exact .whole
    | @tail k j _ hkj ih =>
      obtain ⟨m, first, hm, hf, le, lt⟩ := hkj
      obtain ⟨q, eq⟩ := Quarter.exists_index_eq (Nat.sub_lt_left_of_lt_add le lt)
      obtain ⟨-, areas, hareas, quarter⟩ := s.quarters hm hf
      obtain ⟨n', hn', harea, hlevel⟩ := quarter q
      have place : first + q.index = j := by omega
      obtain rfl : n' = n := Option.some.inj (hn'.symm.trans (place ▸ hn))
      rw [harea, hlevel]
      exact (ih hm).quarter hareas q
  exact key (s.within_root (lt_size_of_nodes hn))

end

/-! ### Four quarters more -/

section

variable {i j level : Nat} {areas : Quad Box}

theorem size_branch : (t.branch i level areas).nodes.size = t.nodes.size + 4 := by
  simp [branch, Node.quarterLeaves]

/-- The nodes of the index after a branch: the old ones, of which one is split, and the leaves. -/
theorem nodes_branch (hi : i < t.nodes.size) : (t.branch i level areas).nodes[j]? =
    if j < t.nodes.size then
      t.nodes[j]?.map fun n => if i = j then n.branch t.nodes.size else n
    else (Node.quarterLeaves areas level)[j - t.nodes.size]? := by
  simp only [branch, Array.getElem?_modify, Array.getElem?_append]
  split
  · next eq =>
    subst eq
    simp [hi]
  · next ne =>
    split
    · simp only [Option.map_id']
    · rfl

theorem nodes_branch_self {n : Node} (hn : t.nodes[i]? = some n) :
    (t.branch i level areas).nodes[i]? = some (n.branch t.nodes.size) := by
  have hi := lt_size_of_nodes hn
  rw [nodes_branch hi, if_pos hi, hn, Option.map_some, if_pos rfl]

theorem nodes_branch_of_ne (hi : i < t.nodes.size) (hj : j < t.nodes.size) (ne : j ≠ i) :
    (t.branch i level areas).nodes[j]? = t.nodes[j]? := by
  rw [nodes_branch hi, if_pos hj]
  simp only [if_neg (Ne.symm ne), Option.map_id']

theorem nodes_branch_quarter (hi : i < t.nodes.size) (q : Quarter) :
    (t.branch i level areas).nodes[t.nodes.size + q.index]?
      = some (.leaf (areas.get q) level) := by
  rw [nodes_branch hi, if_neg (by omega), Nat.add_sub_cancel_left]
  cases q <;> rfl

/-- The node at a place after a branch: the split one, an old one, or a new leaf. -/
theorem cases_of_nodes_branch (hi : i < t.nodes.size) {m : Node}
    (hm : (t.branch i level areas).nodes[j]? = some m) :
    (j = i ∧ ∃ n, t.nodes[i]? = some n ∧ m = n.branch t.nodes.size) ∨
      (j ≠ i ∧ t.nodes[j]? = some m) ∨
      ∃ q : Quarter, j = t.nodes.size + q.index ∧ m = .leaf (areas.get q) level := by
  rcases Nat.lt_or_ge j t.nodes.size with lt | ge
  · by_cases eq : j = i
    · subst eq
      obtain ⟨n, hn⟩ : ∃ n, t.nodes[j]? = some n := ⟨_, Array.getElem?_eq_getElem lt⟩
      rw [nodes_branch_self hn, Option.some.injEq] at hm
      exact .inl ⟨rfl, n, hn, hm.symm⟩
    · exact .inr (.inl ⟨eq, nodes_branch_of_ne hi lt eq ▸ hm⟩)
  · have bound := lt_size_of_nodes hm
    rw [size_branch] at bound
    obtain ⟨q, hq⟩ := Quarter.exists_index_eq (Nat.sub_lt_left_of_lt_add ge bound)
    obtain rfl : j = t.nodes.size + q.index := by omega
    rw [nodes_branch_quarter hi, Option.some.injEq] at hm
    exact .inr (.inr ⟨q, rfl, hm.symm⟩)

/-- A branch changes neither the area nor the level of the root. -/
theorem root_branch (hi : i < t.nodes.size) :
    (t.branch i level areas).root.area = t.area ∧
      (t.branch i level areas).root.level = t.root.level := by
  rcases cases_of_nodes_branch hi (t.branch i level areas).nodes_zero with
    ⟨rfl, n', hn', eq⟩ | ⟨-, eq⟩ | ⟨q, eq, -⟩
  · obtain rfl : t.root = n' := Option.some.inj (t.nodes_zero.symm.trans hn')
    rw [eq]
    exact ⟨rfl, rfl⟩
  · rw [nodes_zero, Option.some.injEq] at eq
    rw [← eq]
    exact ⟨rfl, rfl⟩
  · have := t.rooted
    omega

/-- After a branch the new leaves are quarters of the split node, and no other link is new. -/
theorem hasQuarter_branch {k : Nat} {n : Node} (hn : t.nodes[i]? = some n) (hleaf : n.isLeaf) :
    (t.branch i level areas).HasQuarter k j ↔
      t.HasQuarter k j ∨ k = i ∧ t.nodes.size ≤ j ∧ j < t.nodes.size + 4 := by
  have hi := lt_size_of_nodes hn
  have not_split : ¬ t.HasQuarter i j := by
    rintro ⟨n', first, hn', hf, -⟩
    obtain rfl : n = n' := Option.some.inj (hn.symm.trans hn')
    simp [Node.isLeaf, hf] at hleaf
  constructor
  · rintro ⟨m, first, hm, hf, le, lt⟩
    rcases cases_of_nodes_branch hi hm with ⟨rfl, n', -, rfl⟩ | ⟨-, hm⟩ | ⟨q, -, rfl⟩
    · obtain rfl : t.nodes.size = first := Option.some.inj hf
      exact .inr ⟨rfl, le, lt⟩
    · exact .inl ⟨m, first, hm, hf, le, lt⟩
    · simp [Node.leaf] at hf
  · rintro (h | ⟨rfl, le, lt⟩)
    · have ne : k ≠ i := fun eq => not_split (eq ▸ h)
      obtain ⟨m, first, hm, hf, le, lt⟩ := h
      exact ⟨m, first, by rw [nodes_branch_of_ne hi (lt_size_of_nodes hm) ne, hm], hf, le, lt⟩
    · exact ⟨n.branch t.nodes.size, t.nodes.size, nodes_branch_self hn, rfl, le, lt⟩

theorem splitCount_branch {n : Node} (hn : t.nodes[i]? = some n) (hleaf : n.isLeaf) :
    (t.branch i level areas).splitCount = t.splitCount + 1 := by
  obtain ⟨hi, rfl⟩ := Array.getElem?_eq_some_iff.mp hn
  have leaves : (Node.quarterLeaves areas level).countP (fun n => !n.isLeaf) = 0 := by
    simp [Node.quarterLeaves, Node.isLeaf, Node.leaf]
  have modified : (t.nodes ++ Node.quarterLeaves areas level).modify i (Node.branch t.nodes.size)
      = t.nodes.set i (t.nodes[i].branch t.nodes.size) ++ Node.quarterLeaves areas level := by
    apply Array.ext_getElem?
    intro j
    simp only [Array.getElem?_modify, Array.getElem?_append, Array.size_set,
      Array.getElem?_set hi]
    split
    · next eq => subst eq; simp [hi]
    · rfl
  have split : (t.nodes[i].branch t.nodes.size).isLeaf = false := rfl
  have := Array.boole_getElem_le_countP (p := fun n : Node => !n.isLeaf) hi
  simp only [splitCount, branch, modified, Array.countP_append, leaves, Array.countP_set hi]
  simp [hleaf, split]

/-- Four quarters more keep the shape. -/
theorem Shape.branch (s : t.Shape) {n : Node} (hn : t.nodes[i]? = some n) (hleaf : n.isLeaf)
    (hlevel : n.level < Node.maxLevel) (hareas : n.area.quarters? = .ok (some areas)) :
    (t.branch i (n.level + 1) areas).Shape := by
  have hi := lt_size_of_nodes hn
  have old_link {k j : Nat} (h : t.HasQuarter k j) : j < t.nodes.size := s.lt_size_of_hasQuarter h
  refine ⟨?_, ?_, ?_, ?_, ?_, ?_⟩
  · rw [(root_branch hi).2, s.root_level]
  · intro k m hm
    rcases cases_of_nodes_branch hi hm with ⟨rfl, n', hn', rfl⟩ | ⟨-, hm⟩ | ⟨q, -, rfl⟩
    · exact s.level_le (n := n') hn'
    · exact s.level_le hm
    · exact hlevel
  · intro k first m hm hf
    rcases cases_of_nodes_branch hi hm with ⟨rfl, n', hn', rfl⟩ | ⟨-, hm⟩ | ⟨q, -, rfl⟩
    · -- the node that has just been split
      obtain rfl : n = n' := Option.some.inj (hn.symm.trans hn')
      obtain rfl : t.nodes.size = first := Option.some.inj hf
      exact ⟨hi, areas, hareas, fun q => ⟨_, nodes_branch_quarter hi q, rfl, rfl⟩⟩
    · obtain ⟨lt, areas', hareas', quarter⟩ := s.quarters hm hf
      refine ⟨lt, areas', hareas', fun q => ?_⟩
      obtain ⟨m', hm', harea, hlevel'⟩ := quarter q
      by_cases eq : first + q.index = i
      · obtain rfl : n = m' := Option.some.inj (hn.symm.trans (eq ▸ hm'))
        exact ⟨n.branch t.nodes.size, by rw [eq]; exact nodes_branch_self hn, harea, hlevel'⟩
      · exact ⟨m', by rw [nodes_branch_of_ne hi (lt_size_of_nodes hm') eq, hm'], harea, hlevel'⟩
    · simp [Node.leaf] at hf
  · intro j pos lt
    simp only [hasQuarter_branch hn hleaf]
    rcases Nat.lt_or_ge j t.nodes.size with old | new
    · obtain ⟨k, hk⟩ := s.parent pos old
      exact ⟨k, .inl hk⟩
    · exact ⟨i, .inr ⟨rfl, new, size_branch ▸ lt⟩⟩
  · intro k k' j hk hk'
    rw [hasQuarter_branch hn hleaf] at hk hk'
    rcases hk with hk | ⟨rfl, new, -⟩ <;> rcases hk' with hk' | ⟨rfl, new', -⟩
    · exact s.parent_unique hk hk'
    · exact absurd (old_link hk) (Nat.not_lt.mpr new')
    · exact absurd (old_link hk') (Nat.not_lt.mpr new)
    · rfl
  · rw [size_branch, splitCount_branch hn hleaf, s.count]
    omega

end

end Quadtree

end Skirmish
