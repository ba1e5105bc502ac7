import Skirmish.Proofs.Quadtree.History

/-!
# Indexes at the edge of the coordinate range

The centers of the quarters are computed without saturation, so an index near the edge of the
coordinate range may come to an area whose quarters have no centers.  Over a dividable area that
never happens, whatever is filed.  Over any other one it happens as soon as a faulty part is crowded:
entries that stand in its middle are sent down to it, and the part would have to be split.

## Main definitions

* `Quadtree.throng` — so many villagers on one spot.

## Main results

* `Registry.exists_run_put` — entities with new ids put into the two maps.
* `Balanced.exists_node`, `Balanced.exists_quarters?` — a crowded part has a node, and quarters.
* `run_of_dividable` — over a dividable area every run has a result.
* `overflow_of_not_dividable` — over any other area a run of the two maps ends in overflow.
* `overflow_free_iff_dividable` — the two together.
* `overflow_of_pair` — two villagers at the edge of the coordinate range.
-/

namespace Skirmish

namespace Box

/-- A box covers the boxes around its center that reach no further. -/
theorem covers_of_half_le {outer inner : Box} (center : inner.center = outer.center)
    (x : inner.half.x ≤ outer.half.x) (y : inner.half.y ≤ outer.half.y) : outer.Covers inner := by
  rw [Int32.le_iff_toInt_le] at x y
  rw [covers_iff_toInt]
  simp only [toInt_low_x, toInt_low_y, toInt_high_x, toInt_high_y, center]
  omega

/-- A box covers its parts. -/
theorem Part.covers {b a : Box} {level : Nat} (h : b.Part level a) : b.Covers a := by
  induction h with
  | whole => exact .refl b
  | quarter part divided q ih => exact ih.trans (isQuarter_get divided q).covers

end Box

/-! ### Entities put into the two maps -/

/-- Entities with new ids are put into the two maps, and nothing else is changed. -/
theorem Registry.exists_run_put {area : Box} {xs : List Entity}
    (covers : ∀ x ∈ xs, area.Covers x.entry.box) (distinct : (xs.map Entity.key).Nodup)
    {r : Registry} (new : ∀ x ∈ xs, r.lookup? x.kind x.entry.id = none) :
    ∃ r', r.run area (xs.map .put) = .ok (xs.map fun _ => some true, r') ∧
      (∀ x ∈ xs, r'.lookup? x.kind x.entry.id = some x.entry) ∧
      ∀ k id, (k, id) ∉ xs.map Entity.key → r'.lookup? k id = r.lookup? k id := by
  induction xs generalizing r with
  | nil => exact ⟨r, rfl, fun _ mem => absurd mem List.not_mem_nil, fun _ _ _ => rfl⟩
  | cons x xs ih =>
    rw [List.forall_mem_cons] at covers new
    rw [List.map_cons, List.nodup_cons] at distinct
    have bind {k : EntityKind} {id : EntityId} : (r.bind x.kind x.entry).lookup? k id
        = if k = x.kind ∧ id = x.entry.id then some x.entry else r.lookup? k id :=
      Registry.lookup?_bind x.still
    -- the ids of the other entities are still new
    have new' (y : Entity) (hy : y ∈ xs) :
        (r.bind x.kind x.entry).lookup? y.kind y.entry.id = none := by
      rw [bind, if_neg, new.2 y hy]
      rintro ⟨kind, id⟩
      apply distinct.1
      rw [Entity.key, ← kind, ← id]
      exact List.mem_map_of_mem hy
    obtain ⟨r', ran, filed, others⟩ := ih covers.2 distinct.2 new'
    have put : r.perform area (.put x) = .ok (some true, r.bind x.kind x.entry) := by
      rw [Registry.perform, if_pos covers.1, new.1, Option.isSome_none, if_neg Bool.false_ne_true]
    refine ⟨r', ?_, List.forall_mem_cons.mpr ⟨?_, filed⟩, fun k id absent => ?_⟩
    · rw [List.map_cons, Registry.run, put, Checked.ok_bind]
      simp only [ran, Checked.ok_bind, List.map_cons]
    · rw [others x.kind x.entry.id distinct.1, bind, if_pos ⟨rfl, rfl⟩]
    · rw [List.map_cons, List.mem_cons, not_or] at absent
      rw [others k id absent.2, bind, if_neg]
      rintro ⟨rfl, rfl⟩
      exact absent.1 rfl

namespace Quadtree

variable {t : Quadtree} {area a : Box} {capacity level : Nat}
  {xs ys : List (EntityKind × Entry)}

/-! ### Crowded parts -/

/-- The node of a crowded part that can be split is split. -/
theorem Balanced.not_isLeaf {i : Nat} {n : Node} (h : t.Balanced xs ys)
    (hn : t.nodes[i]? = some n) (can : n.CanSplit) (crowded : t.capacity < load xs n.area) :
    ¬ n.isLeaf :=
  fun leaf => absurd crowded (Nat.not_lt.mpr (h.leaves hn leaf can))

/-- A crowded part that is large enough has a node. -/
theorem Balanced.exists_node (h : t.Balanced xs ys) (part : t.area.Part level a)
    (above : level ≤ Node.maxLevel) (large_x : Node.minHalf ≤ a.half.x)
    (large_y : Node.minHalf ≤ a.half.y) (crowded : t.capacity < load xs a) :
    ∃ (i : Nat) (n : Node), t.nodes[i]? = some n ∧ n.level = level ∧ n.area = a := by
  induction part with
  | whole => exact ⟨0, t.root, t.nodes_zero, h.sound.root_level, rfl⟩
  | @quarter level b areas part divided q ih =>
    have measures := Box.isQuarter_get divided q
    have larger {c d : Int32} (double : 2 * c.toInt = d.toInt) (le : Node.minHalf ≤ c) :
        Node.minHalf ≤ d := by
      have eight : Node.minHalf.toInt = 8 := rfl
      rw [Int32.le_iff_toInt_le, eight] at le ⊢
      omega
    have large_x' := larger measures.half_x large_x
    have large_y' := larger measures.half_y large_y
    have crowded' := Nat.lt_of_lt_of_le crowded (load_mono measures.covers)
    obtain ⟨i, n, hn, rfl, rfl⟩ :=
      ih (Nat.le_of_succ_le above) large_x' large_y' crowded'
    have split : ¬ n.isLeaf := by
      intro leaf
      have may : n.MaySplit := ⟨leaf, above, large_x', large_y'⟩
      exact h.not_isLeaf hn (may.canSplit (by simp [divided])) crowded' leaf
    obtain ⟨first, hf⟩ : ∃ first, n.firstQuarter = some first := by
      simpa [Node.isLeaf, Option.ne_none_iff_exists'] using split
    obtain ⟨-, areas', divided', quarter⟩ := h.sound.quarters hn hf
    obtain rfl : areas' = areas := Option.some.inj (Except.ok.inj (divided'.symm.trans divided))
    obtain ⟨m, hm, harea, hlevel⟩ := quarter q
    exact ⟨_, m, hm, hlevel, harea⟩

/-- A crowded part that is large enough has quarters, or is not divided at all. -/
theorem Balanced.exists_quarters? (h : t.Balanced xs ys) (part : t.area.Part level a)
    (above : level < Node.maxLevel) (large_x : Node.minHalf ≤ a.half.x)
    (large_y : Node.minHalf ≤ a.half.y) (crowded : t.capacity < load xs a) :
    ∃ areas, a.quarters? = .ok areas := by
  obtain ⟨i, n, hn, rfl, rfl⟩ :=
    h.exists_node part (Nat.le_of_lt above) large_x large_y crowded
  by_cases leaf : n.isLeaf
  case pos =>
    have may : n.MaySplit := ⟨leaf, above, large_x, large_y⟩
    by_contra fault
    have divided : n.area.quarters? ≠ .ok none := fun undivided => fault ⟨none, undivided⟩
    exact h.not_isLeaf hn (may.canSplit divided) crowded leaf
  case neg =>
    obtain ⟨first, hf⟩ : ∃ first, n.firstQuarter = some first := by
      simpa [Node.isLeaf, Option.ne_none_iff_exists'] using leaf
    obtain ⟨-, areas, divided, -⟩ := h.sound.quarters hn hf
    exact ⟨some areas, divided⟩

/-! ### A throng -/

/-- So many villagers on one spot. -/
def throng (spot : Point) (n : Nat) : List Entity :=
  (List.range n).map fun k => .unit (.villager ⟨.ofNat k⟩ spot 1)

/-- Villagers in the middle of an area that is large enough lie inside it. -/
theorem covers_of_mem_throng {n : Nat} (large_x : Node.minHalf ≤ a.half.x)
    (large_y : Node.minHalf ≤ a.half.y) : ∀ x ∈ throng a.center n, a.Covers x.entry.box := by
  intro x hx
  obtain ⟨k, -, rfl⟩ := List.mem_map.mp hx
  have small : (Footprint.ofDiameter 14).half = ⟨7, 7⟩ := rfl
  have le : (7 : Int32) ≤ Node.minHalf := by decide
  exact Box.covers_of_half_le rfl (Int32.le_trans le large_x) (Int32.le_trans le large_y)

/-- As long as there are numbers for them, villagers have ids of their own. -/
theorem distinct_throng (spot : Point) {n : Nat} (few : n ≤ UInt32.size) :
    ((throng spot n).map Entity.key).Nodup := by
  rw [throng, List.map_map]
  refine List.nodup_range.map_on ?_
  intro j hj k hk eq
  have eq : UInt32.ofNat j = UInt32.ofNat k := congrArg (fun key => key.2.number) eq
  have toNat {i : Nat} (hi : i ∈ List.range n) : (UInt32.ofNat i).toNat = i :=
    UInt32.toNat_ofNat_of_lt' (Nat.lt_of_lt_of_le (List.mem_range.mp hi) few)
  rw [← toNat hj, ← toNat hk, eq]

/-- The load of an area that covers entities with ids of their own. -/
theorem length_le_load {es : List Entity} (filed : ∀ x ∈ es, x.filed ∈ xs)
    (distinct : (es.map Entity.key).Nodup) (covers : ∀ x ∈ es, a.Covers x.entry.box) :
    es.length ≤ load xs a := by
  have nodup : (es.map Entity.filed).Nodup := by
    refine List.Nodup.of_map (fun x => (x.1, x.2.id)) ?_
    rw [List.map_map]
    exact distinct
  have sub : (es.map Entity.filed).Subperm xs := by
    refine List.subperm_of_subset nodup fun y hy => ?_
    obtain ⟨x, hx, rfl⟩ := List.mem_map.mp hy
    exact filed x hx
  have all : load (es.map Entity.filed) a = (es.map Entity.filed).length := by
    rw [load, List.countP_eq_length]
    intro x hx
    obtain ⟨y, hy, rfl⟩ := List.mem_map.mp hx
    exact decide_eq_true (covers y hy)
  rw [← List.length_map (f := Entity.filed), ← all]
  exact sub.countP_le _

/-! ### Overflow -/

/-- Over a dividable area every run of the two maps is a run of the index. -/
theorem run_of_dividable (dividable : area.Dividable) {ops : List Op}
    {replies : List (Option Bool)} {r : Registry}
    (ran : Registry.empty.run area ops = .ok (replies, r)) :
    ∃ t, run ops (.empty area capacity) = .ok (replies, t) := by
  have follows := (represents_empty area capacity).follows_run ops
  have same : (Quadtree.empty area capacity).area = area := rfl
  rw [same] at follows
  cases outcome : run ops (.empty area capacity) with
  | error fault =>
    rw [outcome] at follows
    rcases follows with failed | ⟨not_dividable, -⟩
    · rw [ran] at failed
      cases failed
    · exact absurd dividable not_dividable
  | ok result =>
    obtain ⟨replies', t⟩ := result
    rw [outcome] at follows
    obtain ⟨r', ran', -⟩ := follows
    obtain ⟨rfl, -⟩ := Prod.mk.inj (Except.ok.inj (ran.symm.trans ran'))
    exact ⟨t, rfl⟩

/-- A throng in the middle of a part that is large enough, but has no quarters. -/
theorem overflow_of_part (part : area.Part level a) (above : level < Node.maxLevel)
    (large_x : Node.minHalf ≤ a.half.x) (large_y : Node.minHalf ≤ a.half.y)
    (faulty : ¬ ∃ areas, a.quarters? = .ok areas) (few : max capacity 1 + 1 ≤ UInt32.size) :
    ∃ replies r f,
      Registry.empty.run area ((throng a.center (max capacity 1 + 1)).map .put)
        = .ok (replies, r) ∧
      run ((throng a.center (max capacity 1 + 1)).map .put) (.empty area capacity) = .error f ∧
      f.IsArithmetic := by
  have inside := covers_of_mem_throng (n := max capacity 1 + 1) large_x large_y
  have distinct := distinct_throng a.center few
  obtain ⟨r, ran, filed, -⟩ := Registry.exists_run_put (r := .empty)
    (fun x hx => part.covers.trans (inside x hx)) distinct
    fun x _ => by cases x <;> simp [Registry.lookup?, Registry.empty, Entity.kind]
  have follows := (represents_empty area capacity).follows_run
    ((throng a.center (max capacity 1 + 1)).map .put)
  have same : (Quadtree.empty area capacity).area = area := rfl
  rw [same, ran] at follows
  cases outcome : run ((throng a.center (max capacity 1 + 1)).map .put) (.empty area capacity) with
  | error fault =>
    rw [outcome] at follows
    rcases follows with failed | ⟨-, arithmetic⟩
    · cases failed
    · exact ⟨_, r, fault, ran, rfl, arithmetic⟩
  | ok result =>
    -- the index would hold the throng, and the part would be crowded
    obtain ⟨replies, t⟩ := result
    rw [outcome] at follows
    obtain ⟨r', eq, represents, -⟩ := follows
    obtain ⟨-, rfl⟩ := Prod.mk.inj (Except.ok.inj eq)
    obtain ⟨⟨xs, ys, h, -⟩, rfl, capacity_eq⟩ := tended_of_run outcome
    have held (x : Entity) (hx : x ∈ throng a.center (max capacity 1 + 1)) : x.filed ∈ xs := by
      refine (h.files.holds_iff.mp (h.sound.holds_iff.mpr ?_)).1
      rw [represents.lookup?_eq, filed x hx]
    have crowded : t.capacity < load xs a := by
      have := length_le_load held distinct inside
      rw [throng, List.length_map, List.length_range] at this
      rw [capacity_eq]
      exact this
    exact absurd (h.exists_quarters? part above large_x large_y crowded) faulty

/-- Over an area that is not dividable the index overflows where the two maps have no fault. -/
theorem overflow_of_not_dividable (not_dividable : ¬ area.Dividable)
    (few : max capacity 1 + 1 ≤ UInt32.size) : ∃ ops replies r f,
      Registry.empty.run area ops = .ok (replies, r) ∧
        run ops (.empty area capacity) = .error f ∧ f.IsArithmetic := by
  simp only [Box.Dividable, not_forall] at not_dividable
  obtain ⟨level, a, part, above, large_x, large_y, faulty⟩ := not_dividable
  exact ⟨_, overflow_of_part part above large_x large_y faulty few⟩

/-- **Which areas are safe.**  A run of the two maps, in which no id is put that is filed already,
is a run of the index as well, if the area is dividable.  If it is not, there are runs that end in
overflow, as long as there are ids enough to exceed the capacity. -/
theorem overflow_free_iff_dividable (area : Box) (capacity : Nat) :
    (area.Dividable → ∀ ops replies r, Registry.empty.run area ops = .ok (replies, r) →
      ∃ t, run ops (.empty area capacity) = .ok (replies, t)) ∧
    (¬ area.Dividable → max capacity 1 + 1 ≤ UInt32.size → ∃ ops replies r f,
      Registry.empty.run area ops = .ok (replies, r) ∧
        run ops (.empty area capacity) = .error f ∧ f.IsArithmetic) :=
  ⟨fun dividable _ _ _ => run_of_dividable dividable,
    fun not_dividable => overflow_of_not_dividable not_dividable⟩

/-- An area whose eastern half lies beyond the coordinate range. -/
def rim : Box := ⟨⟨2147483647, 0⟩, ⟨16, 16⟩⟩

/-- Two villagers on one spot of it. -/
def pair : List Op :=
  [.put (.unit (.villager ⟨1⟩ ⟨2147483639, 0⟩ 1)), .put (.unit (.villager ⟨2⟩ ⟨2147483639, 0⟩ 1))]

/-- Both villagers fit the area and have ids of their own, and still the second one is a fault. -/
theorem overflow_of_pair : ∃ replies r,
    Registry.empty.run rim pair = .ok (replies, r) ∧
      run pair (.empty rim 1) = .error .addition := by
  have replies : (Registry.empty.run rim pair).map Prod.fst = .ok [some true, some true] := by
    decide +kernel
  obtain ⟨⟨replies, r⟩, ran, -⟩ := Checked.map_eq_ok_iff.mp replies
  have fault : (run pair (.empty rim 1)).map Prod.fst = .error .addition := by
    decide +kernel
  cases outcome : run pair (.empty rim 1) with
  | error f =>
    rw [outcome] at fault
    exact ⟨replies, r, ran, congrArg Except.error (Except.error.inj fault)⟩
  | ok result =>
    rw [outcome] at fault
    cases fault

end Quadtree

end Skirmish
