import Mathlib.Data.List.Nodup
import Skirmish.Proofs.Quadtree.Removal

/-!
# Searching the index

A search passes over every node whose area does not meet the region, with all nodes below it.  That
is right because a node covers what stands below it: an entry that meets the region stands in nodes
that all meet it.  A search visits no node twice, since a node is reached from its parent alone, so
it comes to an end within as many visits as there are nodes.

## Main definitions

* `Quadtree.hitsAt` — the hits of the node at a place.
* `Quadtree.Searched` — what holds of a search on its way, given the places visited so far.

## Main results

* `Searched.visit`, `Searched.visits` — one visit, and the whole search.
* `Sound.query` — a query appends exactly the ids whose boxes meet the region, each of them once.
-/

namespace Skirmish

namespace Quadtree

variable {t : Quadtree} {kind : EntityKind} {region : Box} {id : EntityId} {i j : Nat}
  {n m : Node} {e : Entry} {out : List EntityId} {seen : List Nat}

theorem mem_quartersDown (hn : t.nodes[i]? = some n) :
    j ∈ n.quartersDown ↔ t.HasQuarter i j := by
  unfold Node.quartersDown HasQuarter
  cases hf : n.firstQuarter with
  | none =>
    refine ⟨fun h => absurd h List.not_mem_nil, ?_⟩
    rintro ⟨n', first, hn', hf', -⟩
    obtain rfl : n = n' := Option.some.inj (hn.symm.trans hn')
    simp [hf] at hf'
  | some first =>
    have place : j ∈ [first + 3, first + 2, first + 1, first] ↔ first ≤ j ∧ j < first + 4 := by
      simp only [List.mem_cons, List.not_mem_nil, or_false]
      omega
    rw [place]
    constructor
    · intro h
      exact ⟨n, first, hn, hf, h⟩
    · rintro ⟨n', first', hn', hf', h⟩
      obtain rfl : n = n' := Option.some.inj (hn.symm.trans hn')
      obtain rfl : first = first' := Option.some.inj (hf.symm.trans hf')
      exact h

theorem nodup_quartersDown (n : Node) : n.quartersDown.Nodup := by
  unfold Node.quartersDown
  split
  · simp
  · exact List.nodup_nil

/-- The hits of the node at a place. -/
def hitsAt (t : Quadtree) (kind : EntityKind) (region : Box) (i : Nat) : List EntityId :=
  (t.nodes[i]?).elim [] fun n => n.hits kind region

theorem mem_hitsAt : id ∈ t.hitsAt kind region i ↔ ∃ n : Node, t.nodes[i]? = some n ∧
    ∃ e ∈ n.entries kind, e.id = id ∧ e.box.Meets region := by
  unfold hitsAt Node.hits
  cases hn : t.nodes[i]? with
  | none => simp
  | some n => simp [and_assoc, and_comm]

/-- A node that does not meet the region has no hits. -/
theorem Sound.hitsAt_eq_nil (s : t.Sound) (hn : t.nodes[i]? = some n)
    (apart : ¬ n.area.Meets region) : t.hitsAt kind region i = [] := by
  rw [List.eq_nil_iff_forall_not_mem]
  intro id hid
  obtain ⟨n', hn', e, he, -, meets⟩ := mem_hitsAt.mp hid
  obtain rfl : n = n' := Option.some.inj (hn.symm.trans hn')
  obtain ⟨n', hn', covers⟩ := (s.takes hn he).covers
  obtain rfl : n = n' := Option.some.inj (hn.symm.trans hn')
  exact apart (covers.meets meets)

/-! ### The search on its way -/

/-- What holds of a search on its way, given the places visited so far. -/
structure Searched (t : Quadtree) (kind : EntityKind) (region : Box) (out : List EntityId)
    (seen : List Nat) (s : Search) : Prop where
  nodup : (seen ++ s.stack).Nodup
  bound : ∀ {i : Nat}, i ∈ seen ++ s.stack → i < t.nodes.size
  root : 0 ∈ seen ++ s.stack
  /-- A node is reached from its parent. -/
  parent : ∀ {j : Nat}, j ∈ seen ++ s.stack → j = 0 ∨ ∃ i ∈ seen, t.HasQuarter i j
  /-- The quarters of a visited node that meets the region are reached. -/
  quarters : ∀ {i j : Nat} {n : Node}, i ∈ seen → t.nodes[i]? = some n → n.area.Meets region →
    t.HasQuarter i j → j ∈ seen ++ s.stack
  found : s.found = out ++ seen.flatMap (t.hitsAt kind region)

theorem searched_start (t : Quadtree) (kind : EntityKind) (region : Box) (out : List EntityId) :
    t.Searched kind region out [] ⟨[0], out⟩ where
  nodup := List.nodup_singleton 0
  bound h := by
    rw [List.nil_append, List.mem_singleton] at h
    exact h ▸ t.rooted
  root := List.mem_singleton_self 0
  parent h := .inl (List.mem_singleton.mp h)
  quarters h := absurd h List.not_mem_nil
  found := by simp

/-- The next place is visited and leads on to some of its quarters; to all of them, if its node meets
the region. -/
theorem Searched.next {search : Search} {rest next : List Nat} (s : t.Shape)
    (h : t.Searched kind region out seen search) (stack : search.stack = i :: rest)
    (hn : t.nodes[i]? = some n) (nodup : next.Nodup) (below : ∀ j ∈ next, t.HasQuarter i j)
    (all : n.area.Meets region → ∀ j, t.HasQuarter i j → j ∈ next) :
    t.Searched kind region out (seen ++ [i])
      ⟨next ++ rest, search.found ++ t.hitsAt kind region i⟩ := by
  have perm : (seen ++ [i] ++ (next ++ rest)).Perm (next ++ (seen ++ search.stack)) := by
    rw [stack, List.append_assoc]
    exact ((List.perm_append_comm_assoc [i] next rest).append_left seen).trans
      (List.perm_append_comm_assoc seen next (i :: rest))
  have reached {j : Nat} : j ∈ seen ++ [i] ++ (next ++ rest) ↔
      j ∈ next ∨ j ∈ seen ++ search.stack := by
    rw [perm.mem_iff, List.mem_append]
  have here : i ∈ seen ++ search.stack := by simp [stack]
  have not_seen : i ∉ seen := by
    have := h.nodup
    rw [stack, List.nodup_middle, List.nodup_cons] at this
    intro hi
    exact this.1 (List.mem_append_left rest hi)
  -- a quarter that has been reached before would have a second parent
  have new (j : Nat) (hj : j ∈ next) : j ∉ seen ++ search.stack := by
    intro old
    have hij := below j hj
    rcases h.parent old with rfl | ⟨i', hi', hij'⟩
    · exact absurd (s.lt_of_hasQuarter hij) (Nat.not_lt_zero i)
    · exact not_seen (s.parent_unique hij hij' ▸ hi')
  refine ⟨?_, ?_, ?_, ?_, ?_, ?_⟩
  · rw [perm.nodup_iff, List.nodup_append]
    exact ⟨nodup, h.nodup, fun j hj k hk eq => new j hj (eq ▸ hk)⟩
  · intro j hj
    rcases reached.mp hj with hj | hj
    · exact s.lt_size_of_hasQuarter (below j hj)
    · exact h.bound hj
  · exact reached.mpr (.inr h.root)
  · intro j hj
    rcases reached.mp hj with hj | hj
    · exact .inr ⟨i, by simp, below j hj⟩
    · rcases h.parent hj with rfl | ⟨k, hk, hkj⟩
      · exact .inl rfl
      · exact .inr ⟨k, List.mem_append_left [i] hk, hkj⟩
  · intro k j m hk hm meets hkj
    rw [reached]
    rcases List.mem_append.mp hk with hk | hk
    · exact .inr (h.quarters hk hm meets hkj)
    · obtain rfl := List.mem_singleton.mp hk
      obtain rfl : n = m := Option.some.inj (hn.symm.trans hm)
      exact .inl (all meets j hkj)
  · simp [h.found, List.append_assoc]

/-- One visit. -/
theorem Searched.visit {search : Search} {rest : List Nat} (s : t.Sound)
    (h : t.Searched kind region out seen search) (stack : search.stack = i :: rest) :
    ∃ next, search.visit t kind region = .ok next ∧
      t.Searched kind region out (seen ++ [i]) next := by
  obtain ⟨n, hn⟩ : ∃ n, t.nodes[i]? = some n :=
    ⟨_, Array.getElem?_eq_getElem (h.bound (by simp [stack]))⟩
  rw [Search.visit]
  simp only [stack, node_eq_ok hn, Checked.ok_bind]
  split
  case isTrue meets =>
    refine ⟨_, rfl, ?_⟩
    have hits : t.hitsAt kind region i = n.hits kind region := by rw [hitsAt, hn]; rfl
    rw [← hits]
    exact h.next s.toShape stack hn (nodup_quartersDown n) (fun j => (mem_quartersDown hn).mp)
      fun _ j => (mem_quartersDown hn).mpr
  case isFalse apart =>
    refine ⟨_, rfl, ?_⟩
    have := h.next s.toShape stack hn List.nodup_nil
      (fun j (hj : j ∈ ([] : List Nat)) => absurd hj nofun) fun meets => absurd meets apart
    rwa [s.hitsAt_eq_nil hn apart, List.append_nil] at this

theorem visits_of_done (t : Quadtree) (kind : EntityKind) (region : Box) (turns : Nat)
    (found : List EntityId) : (Search.mk [] found).visits t kind region turns = .ok ⟨[], found⟩ := by
  induction turns with
  | zero => rfl
  | succ turns ih => exact ih

/-- There are no more places visited, or to be visited, than nodes. -/
theorem Searched.length_le {search : Search} (h : t.Searched kind region out seen search) :
    (seen ++ search.stack).length ≤ t.nodes.size := by
  rw [← List.length_range (n := t.nodes.size)]
  exact h.nodup.length_le_of_subset fun i hi => List.mem_range.mpr (h.bound hi)

/-- The whole search ends with an empty stack. -/
theorem Searched.visits {search : Search} {turns : Nat} (s : t.Sound)
    (h : t.Searched kind region out seen search) (enough : t.nodes.size ≤ seen.length + turns) :
    ∃ seen' found, search.visits t kind region turns = .ok ⟨[], found⟩ ∧
      t.Searched kind region out seen' ⟨[], found⟩ := by
  induction turns generalizing seen search with
  | zero =>
    -- every node has been visited
    have length := h.length_le
    rw [List.length_append] at length
    obtain ⟨stack, found⟩ := search
    obtain rfl : stack = [] := List.eq_nil_of_length_eq_zero (by dsimp only at length; omega)
    exact ⟨seen, found, rfl, h⟩
  | succ turns ih =>
    cases stack : search.stack with
    | nil =>
      obtain ⟨_, found⟩ := search
      obtain rfl := stack
      exact ⟨seen, found, visits_of_done t kind region _ found, h⟩
    | cons i rest =>
      obtain ⟨next, visited, hnext⟩ := h.visit s stack
      rw [Search.visits, visited, Checked.ok_bind]
      refine ih hnext ?_
      rw [List.length_append, List.length_singleton]
      omega

/-- At its end a search has visited every node that meets the region. -/
theorem Searched.visited {found : List EntityId} (s : t.Shape)
    (h : t.Searched kind region out seen ⟨[], found⟩) (hn : t.nodes[i]? = some n)
    (meets : n.area.Meets region) : i ∈ seen := by
  have key (hi : Relation.ReflTransGen t.HasQuarter 0 i) : i ∈ seen := by
    induction hi generalizing n with
    | refl => simpa using h.root
    | @tail k j _ hkj ih =>
      obtain ⟨m, first, hm, -⟩ := id hkj
      -- the parent covers the node, so it meets the region too
      have parent_meets := (s.covers_of_hasQuarter hkj hm hn).meets meets
      simpa using h.quarters (ih hm parent_meets) hm parent_meets hkj
  exact key (s.within_root (lt_size_of_nodes hn))

/-! ### Queries -/

theorem nodup_hits (s : t.Sound) (h : seen.Nodup) :
    (seen.flatMap (t.hitsAt kind region)).Nodup := by
  rw [List.nodup_flatMap]
  constructor
  · intro i _
    unfold hitsAt
    cases hn : t.nodes[i]? with
    | none => exact List.nodup_nil
    | some n => exact ((s.tidy hn).nodup kind).sublist (List.filter_sublist.map _)
  · refine h.imp fun {i j} ne => ?_
    intro id hi hj
    obtain ⟨n, hn, e, he, rfl, -⟩ := mem_hitsAt.mp hi
    obtain ⟨m, hm, e', he', hid, -⟩ := mem_hitsAt.mp hj
    exact ne (s.place_unique hn he hm he' hid.symm)

/-- A query appends exactly the ids whose boxes meet the region, each of them once. -/
theorem Sound.query (s : t.Sound) (kind : EntityKind) (region : Box) (out : List EntityId) :
    ∃ hits : List EntityId, t.query kind region out = .ok (out ++ hits) ∧ hits.Nodup ∧
      ∀ id, id ∈ hits ↔ ∃ e, t.lookup? kind id = some e ∧ e.box.Meets region := by
  rw [Quadtree.query]
  split
  case isTrue empty =>
    refine ⟨[], by rw [List.append_nil], List.nodup_nil, fun id => ?_⟩
    refine ⟨fun h => absurd h List.not_mem_nil, ?_⟩
    rintro ⟨e, -, meets⟩
    exact absurd empty (Box.meets_iff_toInt.mp meets).2.1
  case isFalse =>
    obtain ⟨seen, found, searched, h⟩ := (searched_start t kind region out).visits s
      (Nat.le_add_left t.nodes.size _)
    have nodup : seen.Nodup := by simpa using h.nodup
    refine ⟨seen.flatMap (t.hitsAt kind region), ?_, nodup_hits s nodup, fun id => ?_⟩
    · rw [searched, ← h.found]
      rfl
    rw [List.mem_flatMap]
    constructor
    · rintro ⟨i, -, hid⟩
      obtain ⟨n, hn, e, he, rfl, meets⟩ := mem_hitsAt.mp hid
      exact ⟨e, s.lookup?_eq_some_iff.mpr ⟨⟨i, n, hn, he⟩, rfl⟩, meets⟩
    · rintro ⟨e, entry, meets⟩
      obtain ⟨⟨i, n, hn, he⟩, hid⟩ := s.lookup?_eq_some_iff.mp entry
      obtain ⟨n', hn', covers⟩ := (s.takes hn he).covers
      obtain rfl : n = n' := Option.some.inj (hn.symm.trans hn')
      exact ⟨i, h.visited s.toShape hn (covers.meets meets),
        mem_hitsAt.mpr ⟨n, hn, e, he, hid, meets⟩⟩

end Quadtree

end Skirmish
