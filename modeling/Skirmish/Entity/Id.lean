import Std.Data.ExtTreeMap

/-!
# Entity ids

Every unit and every particle is named by a number that is handed out once.  Ids are ordered by
their numbers, and the order is lawful, so that an ordered map keyed by ids is determined by its
bindings.

## Main definitions

* `EntityId` — the name of one entity.
* `EntityKind` — which of the two families of entities an id is looked up in.
* `EntityId.Table` — the finite maps from ids used throughout the library.
* `EntityId.sort` — ids in ascending order.
-/

namespace Skirmish

/-- The name of one entity; two entities are the same exactly when their ids are. -/
structure EntityId where
  /-- The number handed out for the entity. -/
  number : UInt32
  deriving DecidableEq, Repr, Inhabited

/-- The two families of entities: units have hit points, particles are only seen. -/
inductive EntityKind where
  | unit
  | particle
  deriving DecidableEq, Repr, Inhabited

namespace EntityId

instance : Ord EntityId := ⟨compareOn EntityId.number⟩

instance : Std.TransOrd EntityId :=
  inferInstanceAs (Std.TransCmp (compareOn EntityId.number))

instance : Std.LawfulEqOrd EntityId where
  eq_of_compare {a b} h := by
    cases a
    cases b
    exact congrArg EntityId.mk (Std.LawfulEqOrd.eq_of_compare h)

/-- Finite maps from ids, listed in ascending order of id. -/
abbrev Table (α : Type) := Std.ExtTreeMap EntityId α

/-- The larger of two ids. -/
def max (a b : EntityId) : EntityId :=
  if a.number ≤ b.number then b else a

/-- Ids in ascending order. -/
def sort (ids : List EntityId) : List EntityId :=
  ids.mergeSort fun a b => decide (a.number ≤ b.number)

end EntityId

end Skirmish
