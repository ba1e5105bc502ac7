import Mathlib.Data.List.Nodup
import Skirmish.Entity.Id

/-!
# Ids in ascending order

A list of ids that is ascending is determined by its members.  Sorting a list without duplicates
makes it ascending, and the keys of a table are ascending, so both can be compared by their members
alone.

## Main definitions

* `EntityId.Ascending` — strictly ascending lists of ids.

## Main results

* `EntityId.Ascending.eq_of_mem_iff` — ascending lists with the same members are equal.
* `EntityId.pairwise_mergeSort` — things sorted by their ids.
* `EntityId.ascending_sort` — a sorted list without duplicates is ascending.
* `EntityId.getElem?_insert`, `EntityId.getElem?_erase` — a table after a change.
* `EntityId.size_eq_of_isSome` — tables that bind the same ids have the same size.
-/

namespace Skirmish

namespace EntityId

/-- Strictly ascending lists of ids. -/
def Ascending (ids : List EntityId) : Prop := ids.Pairwise fun a b => a.number < b.number

theorem eq_of_number_eq {a b : EntityId} (h : a.number = b.number) : a = b := by
  cases a
  cases b
  exact congrArg mk h

theorem Ascending.nodup {ids : List EntityId} (h : Ascending ids) : ids.Nodup := by
  refine List.Pairwise.imp (fun {a b} lt eq => ?_) (show ids.Pairwise _ from h)
  rw [eq] at lt
  exact UInt32.lt_irrefl _ lt

/-- Ascending lists with the same members are equal. -/
theorem Ascending.eq_of_mem_iff {l l' : List EntityId} (h : Ascending l) (h' : Ascending l')
    (mem : ∀ id, id ∈ l ↔ id ∈ l') : l = l' := by
  refine List.Perm.eq_of_pairwise ?_ h h' ((List.perm_ext_iff_of_nodup h.nodup h'.nodup).mpr mem)
  intro a b _ _ lt gt
  exact absurd (UInt32.lt_trans lt gt) (UInt32.lt_irrefl _)

/-! ### Sorting -/

/-- Things with different ids are sorted into strictly ascending order of the ids. -/
theorem pairwise_mergeSort {α : Type} (idOf : α → EntityId) {l : List α}
    (h : (l.map idOf).Nodup) :
    (l.mergeSort fun a b => decide ((idOf a).number ≤ (idOf b).number)).Pairwise
      fun a b => (idOf a).number < (idOf b).number := by
  have sorted : (l.mergeSort fun a b => decide ((idOf a).number ≤ (idOf b).number)).Pairwise
      fun a b => decide ((idOf a).number ≤ (idOf b).number) := by
    refine List.pairwise_mergeSort ?_ ?_ l
    · intro a b c hab hbc
      simpa using UInt32.le_trans (of_decide_eq_true hab) (of_decide_eq_true hbc)
    · intro a b
      simpa using UInt32.le_total (idOf a).number (idOf b).number
  have perm := List.mergeSort_perm l fun a b => decide ((idOf a).number ≤ (idOf b).number)
  have nodup := (perm.map idOf).nodup_iff.mpr h
  refine sorted.imp₂ (fun a b le ne => ?_) (List.pairwise_map.mp nodup)
  exact UInt32.lt_of_le_of_ne (of_decide_eq_true le) fun eq => ne (eq_of_number_eq eq)

theorem perm_sort (ids : List EntityId) : (sort ids).Perm ids := List.mergeSort_perm ids _

@[simp] theorem mem_sort {ids : List EntityId} {id : EntityId} : id ∈ sort ids ↔ id ∈ ids :=
  (perm_sort ids).mem_iff

/-- A sorted list without duplicates is ascending. -/
theorem ascending_sort {ids : List EntityId} (h : ids.Nodup) : Ascending (sort ids) :=
  pairwise_mergeSort (fun id => id) (by rwa [List.map_id'])

/-! ### Tables -/

section

variable {α : Type} {id id' : EntityId}

theorem getElem?_insert (t : Table α) (a : α) :
    (t.insert id a)[id']? = if id' = id then some a else t[id']? := by
  simp only [Std.ExtTreeMap.getElem?_insert, Std.LawfulEqCmp.compare_eq_iff_eq,
    eq_comm (a := id)]

theorem getElem?_erase (t : Table α) :
    (t.erase id)[id']? = if id' = id then none else t[id']? := by
  simp only [Std.ExtTreeMap.getElem?_erase, Std.LawfulEqCmp.compare_eq_iff_eq,
    eq_comm (a := id)]

end

theorem ascending_keys {α : Type} (t : Table α) : Ascending t.keys := by
  refine List.Pairwise.imp (fun {a b} lt => ?_) (Std.ExtTreeMap.ordered_keys (t := t))
  exact Std.compare_eq_lt.mp (show compare a.number b.number = .lt from lt)

/-- Tables that bind the same ids have the same size. -/
theorem size_eq_of_isSome {α β : Type} {t : Table α} {t' : Table β}
    (h : ∀ id : EntityId, (t[id]?).isSome = (t'[id]?).isSome) : t.size = t'.size := by
  have mem (id : EntityId) : id ∈ t.keys ↔ id ∈ t'.keys := by
    rw [Std.ExtTreeMap.mem_keys, Std.ExtTreeMap.mem_keys,
      Std.ExtTreeMap.mem_iff_isSome_getElem?, Std.ExtTreeMap.mem_iff_isSome_getElem?, h]
  have keys : t.keys = t'.keys := (ascending_keys t).eq_of_mem_iff (ascending_keys t') mem
  rw [← Std.ExtTreeMap.length_keys, ← Std.ExtTreeMap.length_keys, keys]

end EntityId

end Skirmish
