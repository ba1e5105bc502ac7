import Skirmish.Proofs.Quadtree.Registry

/-!
# What an index looks like inside

The shape of an index, the places of its entries and its directories, as they are after every run
of operations from the empty index.

## Main definitions

* `Quadtree.WellBuilt` — the links make a tree of quarters, and every entry stands once, in the
  lowest node that covers it, under the place that its directory names.

## Main results

* `Sound.wellBuilt` — a sound index is well built.
* `wellBuilt_of_run` — every run from the empty index leaves it well built.
-/

namespace Skirmish

namespace Quadtree

variable {t : Quadtree}

/-- The inside of an index. -/
structure WellBuilt (t : Quadtree) : Prop where
  /-- The root stands first and is no quarter. -/
  root : ∀ i, ¬ t.HasQuarter i 0
  /-- Every other node is a quarter of exactly one split node. -/
  parent : ∀ j, 0 < j → j < t.nodes.size → ∃! i, t.HasQuarter i j
  /-- Every node lies below the root. -/
  within_root : ∀ j, j < t.nodes.size → Relation.ReflTransGen t.HasQuarter 0 j
  /-- A split node has four quarters next to each other, one level deeper. -/
  level_quarter : ∀ {i first : Nat} {n : Node}, t.nodes[i]? = some n →
    n.firstQuarter = some first → ∀ k < 4, ∃ m : Node, t.nodes[first + k]? = some m ∧
      m.level = n.level + 1
  /-- The points of the quarters are points of the node. -/
  mem_of_mem_quarter : ∀ {i j : Nat} {n m : Node}, t.nodes[i]? = some n → t.HasQuarter i j →
    t.nodes[j]? = some m → ∀ p ∈ m.area, p ∈ n.area
  /-- Every point of a split node is a point of exactly one quarter. -/
  existsUnique_quarter : ∀ {i : Nat} {n : Node}, t.nodes[i]? = some n → ¬ n.isLeaf →
    ∀ p ∈ n.area, ∃! j, t.HasQuarter i j ∧ ∃ m : Node, t.nodes[j]? = some m ∧ p ∈ m.area
  level_le : ∀ {i : Nat} {n : Node}, t.nodes[i]? = some n → n.level ≤ 8
  nodeCount_eq : t.nodeCount = 1 + 4 * t.splitCount
  /-- No id of a family is stored twice, neither in one node nor in two. -/
  nodup_ids : ∀ kind, (t.nodes.toList.flatMap fun n => (n.entries kind).map Entry.id).Nodup
  /-- A directory names the node that stores an id, and has no other keys. -/
  home_iff : ∀ {kind : EntityKind} {id : EntityId} {i : Nat}, (t.homes kind)[id]? = some i ↔
    ∃ n : Node, t.nodes[i]? = some n ∧ id ∈ (n.entries kind).map Entry.id
  covers : ∀ {kind : EntityKind} {i : Nat} {n : Node} {e : Entry}, t.nodes[i]? = some n →
    e ∈ n.entries kind → n.area.Covers e.box
  /-- No quarter of the node that stores an entry covers its box. -/
  lowest : ∀ {kind : EntityKind} {i j : Nat} {n m : Node} {e : Entry}, t.nodes[i]? = some n →
    e ∈ n.entries kind → t.HasQuarter i j → t.nodes[j]? = some m → ¬ m.area.Covers e.box
  nodup_walkers : ∀ {i : Nat} {n : Node}, t.nodes[i]? = some n → n.walkers.Nodup
  /-- A node lists exactly those of its units that can walk. -/
  mem_walkers : ∀ {i : Nat} {n : Node}, t.nodes[i]? = some n →
    ∀ id, id ∈ n.walkers ↔ ∃ e ∈ n.units, e.mobile ∧ e.id = id

/-- A sound index is well built. -/
theorem Sound.wellBuilt (s : t.Sound) : t.WellBuilt where
  root i hi := absurd (s.lt_of_hasQuarter hi) (Nat.not_lt_zero i)
  parent j pos lt := by
    obtain ⟨i, hi⟩ := s.parent pos lt
    exact ⟨i, hi, fun i' hi' => s.parent_unique hi' hi⟩
  within_root j := s.within_root
  level_quarter {i first n} hn hf k hk := by
    obtain ⟨q, m, -, hm, -, hlevel⟩ := s.exists_quarter hn hf (Nat.le_add_right first k)
      (Nat.add_lt_add_left hk first)
    exact ⟨m, hm, hlevel⟩
  mem_of_mem_quarter {i j n m} hn hij hm p hp := by
    obtain ⟨n', first, hn', hf, le, lt⟩ := hij
    obtain rfl : n = n' := Option.some.inj (hn.symm.trans hn')
    obtain ⟨q, m', -, hm', quarter, -⟩ := s.exists_quarter hn hf le lt
    obtain rfl : m = m' := Option.some.inj (hm.symm.trans hm')
    exact (quarter.mem_iff.mp hp).1
  existsUnique_quarter {i n} hn split p hp := by
    obtain ⟨first, hf⟩ : ∃ first, n.firstQuarter = some first := by
      simpa [Node.isLeaf, Option.ne_none_iff_exists'] using split
    obtain ⟨-, areas, hareas, quarter⟩ := s.quarters hn hf
    obtain ⟨q, hq, unique⟩ := Box.existsUnique_quarter hareas hp
    obtain ⟨m, hm, harea, -⟩ := quarter q
    have := q.index_lt
    refine ⟨first + q.index, ⟨⟨n, first, hn, hf, by omega, by omega⟩, m, hm, harea ▸ hq⟩, ?_⟩
    intro j hj
    obtain ⟨⟨n', first', hn', hf', le, lt⟩, m', hm', hp'⟩ := hj
    obtain rfl : n = n' := Option.some.inj (hn.symm.trans hn')
    obtain rfl : first = first' := Option.some.inj (hf.symm.trans hf')
    -- the quarter at the place is the one with the point
    obtain ⟨r, hr⟩ := Quarter.exists_index_eq (Nat.sub_lt_left_of_lt_add le lt)
    obtain rfl : j = first + r.index := by omega
    obtain ⟨m₁, hm₁, harea₁, -⟩ := quarter r
    obtain rfl : m' = m₁ := Option.some.inj (hm'.symm.trans hm₁)
    rw [harea₁] at hp'
    rw [unique r hp']
  level_le := s.level_le
  nodeCount_eq := s.count
  nodup_ids := s.nodup_ids
  home_iff {kind id i} := by
    rw [s.home_iff]
    simp only [List.mem_map]
  covers {kind i n e} hn he := by
    obtain ⟨n', hn', covers⟩ := (s.takes hn he).covers
    rwa [Option.some.inj (hn.symm.trans hn')]
  lowest hn he hij hm := (s.takes hn he).lowest hij hm
  nodup_walkers hn := (s.tidy hn).walkers.nodup_iff.mpr
    (((s.tidy hn).nodup .unit).sublist (List.filter_sublist.map _))
  mem_walkers {i n} hn id := by
    rw [(s.tidy hn).walkers.mem_iff]
    simp [Node.entries, and_assoc]

/-- Every run from the empty index leaves it well built. -/
theorem wellBuilt_of_run {area : Box} {capacity : Nat} {ops : List Op}
    {replies : List (Option Bool)} (h : run ops (.empty area capacity) = .ok (replies, t)) :
    t.WellBuilt := by
  have run := (represents_empty area capacity).run ops
  rw [h] at run
  obtain ⟨r, -, represents, -⟩ := run
  exact represents.sound.wellBuilt

/-- Two units and a particle that shares an id with one of them split the root; then one unit walks
over the middle line, the other one leaves, and the index is rebuilt. -/
def walk : List Op :=
  [.put (.unit (.villager ⟨1⟩ ⟨20, 20⟩ 1)), .put (.particle (.debris ⟨1⟩ ⟨100, 100⟩ 1)),
    .put (.unit (.villager ⟨2⟩ ⟨20, 100⟩ 1)), .update (.unit (.villager ⟨1⟩ ⟨64, 20⟩ 1)),
    .erase .unit ⟨2⟩, .rebuild]

theorem wellBuilt_of_walk : ∃ replies t,
    run walk (.empty ⟨⟨64, 64⟩, ⟨64, 64⟩⟩ 1) = .ok (replies, t) ∧ t.nodeCount = 5 ∧
      t.WellBuilt := by
  have count : (run walk (.empty ⟨⟨64, 64⟩, ⟨64, 64⟩⟩ 1)).map (fun r => r.2.nodeCount) = .ok 5 := by
    decide +kernel
  obtain ⟨⟨replies, t⟩, ran, count⟩ := Checked.map_eq_ok_iff.mp count
  exact ⟨replies, t, ran, count, wellBuilt_of_run ran⟩

end Quadtree

end Skirmish
