import Skirmish.Proofs.Entity.Entry
import Skirmish.Proofs.Quadtree.Load
import Skirmish.Proofs.Quadtree.Registry

/-!
# The order of insertion does not show in the nodes

When entities are put into an empty index one after the other, each split comes at the time of the
entity that finds a leaf full.  Still the nodes that are split in the end are those that can be and
that cover more boxes than the capacity.  So the nodes, and the node of every entity, follow from
the set of the entities alone.

## Main definitions

* `Quadtree.homeArea?` — the area of the node that the directory names for an id.
* `Quadtree.SameForm` — two indexes with the same nodes, and every id over the same area.
* `Quadtree.FormedBy` — the form of an index after entities have been put into it.

## Main results

* `Balanced.exists_put`, `Balanced.exists_run` — one entity, and several ones, put into a balanced
  index.
* `Balanced.sameForm` — balanced indexes that file the same entries have the same form.
* `sameForm_of_perm` — entities put into an empty index in two orders.
-/

namespace Skirmish

namespace Entity

/-- What an index files of an entity. -/
def filed (x : Entity) : EntityKind × Entry := (x.kind, x.entry)

/-- The family and the id of an entity. -/
def key (x : Entity) : EntityKind × EntityId := (x.kind, x.entry.id)

/-- Every entity takes some ground. -/
theorem not_isEmpty (x : Entity) : ¬ x.entry.box.IsEmpty := by
  have half : ∃ f : Footprint, x.entry.box.half = f.half := by
    cases x with
    | unit u => exact ⟨u.body.footprint, rfl⟩
    | particle p => exact ⟨p.footprint, rfl⟩
  obtain ⟨f, half⟩ := half
  have := f.one_le_toInt_half
  rw [Box.isEmpty_iff_toInt, half]
  omega

end Entity

namespace Quadtree

variable {t t' : Quadtree} {xs ys : List (EntityKind × Entry)}

/-! ### One form -/

/-- The area of the node that the directory names for an id. -/
def homeArea? (t : Quadtree) (kind : EntityKind) (id : EntityId) : Option Box := do
  let i ← (t.homes kind)[id]?
  let n ← t.nodes[i]?
  some n.area

/-- Two indexes with nodes over the same areas, in which every id stands over the same one. -/
structure SameForm (t t' : Quadtree) : Prop where
  homeArea?_eq : ∀ kind id, t.homeArea? kind id = t'.homeArea? kind id
  areas : ∀ area, (∃ n ∈ t.nodes, n.area = area) ↔ ∃ n ∈ t'.nodes, n.area = area
  nodeCount_eq : t.nodeCount = t'.nodeCount
  depth_eq : t.depth = t'.depth

theorem Sound.homeArea?_eq_some_iff (s : t.Sound) {kind : EntityKind} {id : EntityId} {area : Box} :
    t.homeArea? kind id = some area ↔ ∃ (i : Nat) (n : Node) (e : Entry),
      t.nodes[i]? = some n ∧ e ∈ n.entries kind ∧ e.id = id ∧ n.area = area := by
  simp only [homeArea?, Option.bind_eq_bind, Option.bind_eq_some_iff, Option.some.injEq]
  constructor
  · rintro ⟨i, home, n, hn, rfl⟩
    obtain ⟨n', hn', e, he, hid⟩ := s.home_iff.mp home
    obtain rfl : n = n' := Option.some.inj (hn.symm.trans hn')
    exact ⟨i, n, e, hn, he, hid, rfl⟩
  · rintro ⟨i, n, e, hn, he, rfl, rfl⟩
    exact ⟨i, s.home_of_mem hn he, n, hn, rfl⟩

/-- In balanced indexes with the same nodes and entries an id stands over the same area. -/
theorem Coarser.homeArea?_eq_some (h : t.Coarser t') (h' : t'.Coarser t) (s : t.Sound)
    (s' : t'.Sound) (f : t.Files xs) (f' : t'.Files xs) (area : t.area = t'.area)
    {kind : EntityKind} {id : EntityId} {a : Box} (home : t.homeArea? kind id = some a) :
    t'.homeArea? kind id = some a := by
  obtain ⟨i, n, e, hn, he, rfl, rfl⟩ := s.homeArea?_eq_some_iff.mp home
  have held := f.holds_iff.mp ⟨i, n, hn, he⟩
  obtain ⟨j, m, hm, he'⟩ := f'.holds_iff.mpr (area ▸ held)
  refine s'.homeArea?_eq_some_iff.mpr ⟨j, m, e, hm, he', rfl, ?_⟩
  exact (h.area_eq_of_takes h' s.toShape s'.toShape (f.points _ held.1) (s.takes hn he)
    (s'.takes hm he') hn hm).symm

/-- Balanced indexes that file the same entries have the same form. -/
theorem Balanced.sameForm (h : t.Balanced xs xs) (h' : t'.Balanced xs xs)
    (area : t.area = t'.area) (capacity : t.capacity = t'.capacity) : t.SameForm t' := by
  have le := h.coarser h' area capacity
  have ge := h'.coarser h area.symm capacity.symm
  have exists_area {t t' : Quadtree} (le : t.Coarser t') {a : Box} :
      (∃ n ∈ t.nodes, n.area = a) → ∃ n ∈ t'.nodes, n.area = a := by
    rintro ⟨n, hn, rfl⟩
    obtain ⟨i, hi⟩ := Array.mem_iff_getElem?.mp hn
    obtain ⟨j, m, hm, -, same⟩ := le.exists_node hi
    exact ⟨m, Array.mem_of_getElem? hm, same⟩
  refine ⟨fun kind id => Option.ext fun a => ⟨?_, ?_⟩,
    fun a => ⟨exists_area le, exists_area ge⟩, ?_, ?_⟩
  · exact le.homeArea?_eq_some ge h.sound h'.sound h.files h'.files area
  · exact ge.homeArea?_eq_some le h'.sound h.sound h'.files h.files area.symm
  · exact Nat.le_antisymm (le.nodeCount_le h.sound.toShape) (ge.nodeCount_le h'.sound.toShape)
  · exact Nat.le_antisymm le.depth_le ge.depth_le

/-! ### Entities in a row -/

theorem Balanced.perm (h : t.Balanced xs xs) (perm : xs.Perm ys) : t.Balanced ys ys := by
  have same (area : Box) : load ys area = load xs area := perm.symm.countP_eq _
  refine ⟨h.congr_load (fun _ => same _) (fun _ => same _), h.sound,
    perm.nodup_iff.mp h.files.nodup, ?_, ?_⟩
  · exact fun x hx => h.files.points x (perm.mem_iff.mpr hx)
  · intro k e
    rw [h.files.holds_iff, perm.mem_iff]

/-- An entity with a new id put into a balanced index. -/
theorem Balanced.exists_put (h : t.Balanced xs xs) (exact : t.area.Exact) (x : Entity)
    (new : ∀ e, (x.kind, e) ∈ xs → e.id ≠ x.entry.id) :
    ∃ t', t.put x.kind x.entry = .ok (decide (t.area.Covers x.entry.box), t') ∧
      t'.Balanced (x.filed :: xs) (x.filed :: xs) ∧ t'.area = t.area ∧
      t'.capacity = t.capacity := by
  have fresh : x.filed ∉ xs := fun mem => new x.entry mem rfl
  by_cases covers : t.area.Covers x.entry.box
  · have unfiled : t.lookup? x.kind x.entry.id = none :=
      h.sound.lookup?_eq_none_iff.mpr fun e held => new e (h.files.holds_iff.mp held).1
    obtain ⟨⟨filed, t'⟩, ok, rfl, rebinds⟩ :=
      (h.sound.put covers unfiled x.still).exists_ok (not_not_intro exact.dividable)
    rw [decide_eq_true covers]
    exact ⟨t', ok, h.put (x := x.filed) (.refl xs) x.not_isEmpty x.still fresh ok, rebinds.area,
      rebinds.capacity⟩
  · rw [decide_eq_false covers]
    exact ⟨t, put_of_not_covers covers,
      h.cons_of_not_covers (x := x.filed) x.not_isEmpty covers fresh, rfl, rfl⟩

/-- Entities with new ids put into a balanced index, one after the other. -/
theorem Balanced.exists_run (xs zs : List Entity)
    (h : t.Balanced (zs.map Entity.filed) (zs.map Entity.filed)) (exact : t.area.Exact)
    (distinct : ((xs ++ zs).map Entity.key).Nodup) :
    ∃ t', run (xs.map .put) t =
        .ok (xs.map fun x => some (decide (t.area.Covers x.entry.box)), t') ∧
      t'.Balanced ((xs ++ zs).map Entity.filed) ((xs ++ zs).map Entity.filed) ∧
      t'.area = t.area ∧ t'.capacity = t.capacity := by
  induction xs generalizing t zs with
  | nil => exact ⟨t, rfl, h, rfl, rfl⟩
  | cons x xs ih =>
    have new (e : Entry) (mem : (x.kind, e) ∈ zs.map Entity.filed) : e.id ≠ x.entry.id := by
      obtain ⟨z, hz, eq⟩ := List.mem_map.mp mem
      obtain ⟨kind, rfl⟩ := Prod.mk.inj eq
      rw [List.cons_append, List.map_cons, List.nodup_cons, List.map_append,
        List.mem_append, not_or] at distinct
      intro hid
      refine distinct.1.2 (List.mem_map.mpr ⟨z, hz, ?_⟩)
      rw [Entity.key, Entity.key, kind, hid]
    obtain ⟨t₁, put, h₁, area₁, capacity₁⟩ := h.exists_put exact x new
    have moved : (xs ++ x :: zs).Perm (x :: xs ++ zs) := List.perm_middle
    obtain ⟨t', ran, h', area', capacity'⟩ := ih (x :: zs) h₁ (area₁ ▸ exact)
      ((moved.map Entity.key).nodup_iff.mpr distinct)
    refine ⟨t', ?_, h'.perm (moved.map Entity.filed), area'.trans area₁,
      capacity'.trans capacity₁⟩
    rw [List.map_cons, run, Op.perform, put, Checked.map_ok, Checked.ok_bind]
    simp only [ran, Checked.ok_bind, area₁, List.map_cons]

/-! ### The form after a run -/

/-- The form of an index after entities have been put into it. -/
structure FormedBy (t : Quadtree) (area : Box) (capacity : Nat) (xs : List Entity) : Prop where
  /-- An entity that the area covers stands in the node that the directory names. -/
  home : ∀ x ∈ xs, area.Covers x.entry.box → ∃ n ∈ t.nodes,
    x.entry ∈ n.entries x.kind ∧ t.homeArea? x.kind x.entry.id = some n.area
  /-- The nodes that are split are those that can be and that cover more boxes than the capacity. -/
  split_iff : ∀ n ∈ t.nodes, ¬ n.isLeaf ↔
    n.CanSplit ∧ max capacity 1 < xs.countP fun x => decide (n.area.Covers x.entry.box)

theorem Balanced.formedBy {area : Box} {capacity : Nat} {xs : List Entity}
    (h : t.Balanced (xs.map Entity.filed) (xs.map Entity.filed)) (harea : t.area = area)
    (hcapacity : t.capacity = max capacity 1) : t.FormedBy area capacity xs := by
  have count (a : Box) :
      load (xs.map Entity.filed) a = xs.countP fun x => decide (a.Covers x.entry.box) :=
    List.countP_map
  refine ⟨?_, ?_⟩
  · intro x hx covers
    obtain ⟨i, n, hn, he⟩ := h.files.holds_iff.mpr
      ⟨List.mem_map_of_mem (f := Entity.filed) hx, harea ▸ covers⟩
    exact ⟨n, Array.mem_of_getElem? hn, he,
      h.sound.homeArea?_eq_some_iff.mpr ⟨i, n, x.entry, hn, he, rfl, rfl⟩⟩
  · intro n mem
    obtain ⟨i, hn⟩ := Array.mem_iff_getElem?.mp mem
    rw [← count, ← hcapacity]
    exact h.split_iff hn

/-- Entities with distinct ids put into an empty index. -/
theorem exists_run_empty {area : Box} (exact : area.Exact) (capacity : Nat) {xs : List Entity}
    (distinct : (xs.map Entity.key).Nodup) :
    ∃ t, run (xs.map .put) (.empty area capacity) =
        .ok (xs.map fun x => some (decide (area.Covers x.entry.box)), t) ∧
      t.Balanced (xs.map Entity.filed) (xs.map Entity.filed) ∧ t.area = area ∧
      t.capacity = max capacity 1 := by
  have ran := (balanced_single area (max capacity 1)).exists_run xs [] exact
  rw [List.append_nil] at ran
  exact ran distinct

/-- Entities with distinct ids are put into an empty index over an exact area, in two orders.  The
two indexes have the same form, and it follows from the set of the entities. -/
theorem sameForm_of_perm {area : Box} (capacity : Nat) {xs ys : List Entity}
    (exact : area.Exact) (distinct : (xs.map Entity.key).Nodup) (perm : xs.Perm ys) :
    ∃ t t',
      run (xs.map .put) (.empty area capacity) =
        .ok (xs.map fun x => some (decide (area.Covers x.entry.box)), t) ∧
      run (ys.map .put) (.empty area capacity) =
        .ok (ys.map fun x => some (decide (area.Covers x.entry.box)), t') ∧
      t.SameForm t' ∧ t.FormedBy area capacity xs ∧ t'.FormedBy area capacity xs := by
  obtain ⟨t, ran, h, harea, hcapacity⟩ := exists_run_empty exact capacity distinct
  obtain ⟨t', ran', h', harea', hcapacity'⟩ :=
    exists_run_empty exact capacity ((perm.map Entity.key).nodup_iff.mp distinct)
  replace h' := h'.perm (perm.map Entity.filed).symm
  refine ⟨t, t', ran, ran', ?_, h.formedBy harea hcapacity, h'.formedBy harea' hcapacity'⟩
  exact h.sameForm h' (harea.trans harea'.symm) (hcapacity.trans hcapacity'.symm)

/-- Two units and a particle that split an area twice, a unit that lies across a middle line, and
one that lies outside. -/
def arrivals : List Entity :=
  [.unit (.villager ⟨1⟩ ⟨20, 20⟩ 1), .particle (.debris ⟨1⟩ ⟨100, 100⟩ 1),
    .unit (.villager ⟨2⟩ ⟨44, 20⟩ 1), .unit (.villager ⟨3⟩ ⟨64, 100⟩ 1),
    .unit (.villager ⟨4⟩ ⟨500, 20⟩ 1)]

theorem sameForm_of_arrivals : ∃ replies replies' t t',
    run (arrivals.map .put) (.empty ⟨⟨64, 64⟩, ⟨64, 64⟩⟩ 1) = .ok (replies, t) ∧
      run (arrivals.reverse.map .put) (.empty ⟨⟨64, 64⟩, ⟨64, 64⟩⟩ 1) = .ok (replies', t') ∧
      t.nodeCount = 9 ∧ t.SameForm t' := by
  have count : (run (arrivals.map .put) (.empty ⟨⟨64, 64⟩, ⟨64, 64⟩⟩ 1)).map
      (fun r => r.2.nodeCount) = .ok 9 := by
    decide +kernel
  have exact : Box.Exact ⟨⟨64, 64⟩, ⟨64, 64⟩⟩ := by
    constructor <;> decide
  have distinct : (arrivals.map Entity.key).Nodup := by decide
  obtain ⟨t, t', ran, ran', same, -⟩ :=
    sameForm_of_perm 1 exact distinct arrivals.reverse_perm.symm
  rw [ran, Checked.map_ok] at count
  exact ⟨_, _, t, t', ran, ran', Except.ok.inj count, same⟩

end Quadtree

end Skirmish
