import Mathlib.Data.List.Induction
import Skirmish.Proofs.World.Owned
import Skirmish.World.Selection

/-!
# Clicks

A click considers the units in view one after the other, in the order in which the index lists
them.  The order does not show: every candidate gets a fresh screen box, and the latest one that
can be picked is found.

## Main definitions

* `EntityId.IsLatest` — the latest id with a property.
* `World.Considered` — what a click has come to after some candidates.

## Main results

* `World.considered_foldl` — what a click comes to.
* `World.Considered.unique` — the same candidates in another order come to the same.
-/

namespace Skirmish

/-! ### The latest id -/

namespace EntityId

/-- The latest id with a property, or nothing if there is none. -/
def IsLatest (P : EntityId → Prop) : Option EntityId → Prop
  | none => ∀ id, ¬ P id
  | some best => P best ∧ ∀ id, P id → id.number ≤ best.number

variable {P Q : EntityId → Prop} {found found' : Option EntityId}

theorem IsLatest.congr (h : IsLatest P found) (iff : ∀ id, P id ↔ Q id) : IsLatest Q found := by
  have : P = Q := funext fun id => propext (iff id)
  rwa [← this]

theorem IsLatest.unique (h : IsLatest P found) (h' : IsLatest P found') : found = found' := by
  cases found with
  | none =>
    cases found' with
    | none => rfl
    | some best => exact absurd h'.1 (h best)
  | some best =>
    cases found' with
    | none => exact absurd h.1 (h' best)
    | some best' =>
      have le := h'.2 best h.1
      have ge := h.2 best' h'.1
      rw [eq_of_number_eq (UInt32.le_antisymm le ge)]

/-- The larger of two ids is the latest one of them. -/
theorem IsLatest.later (h : IsLatest P found) (id : EntityId) :
    IsLatest (fun id' => P id' ∨ id' = id) (some (World.later found id)) := by
  cases found with
  | none =>
    refine ⟨.inr rfl, ?_⟩
    rintro id' (hid | rfl)
    · exact absurd hid (h id')
    · exact UInt32.le_refl _
  | some best =>
    obtain ⟨hbest, latest⟩ := h
    rw [World.later, EntityId.max]
    split
    case isTrue le =>
      refine ⟨.inr rfl, ?_⟩
      rintro id' (hid | rfl)
      · exact UInt32.le_trans (latest id' hid) le
      · exact UInt32.le_refl _
    case isFalse gt =>
      refine ⟨.inl hbest, ?_⟩
      rintro id' (hid | rfl)
      · exact latest id' hid
      · exact UInt32.le_of_lt (UInt32.not_le.mp gt)

end EntityId

/-! ### Candidates -/

namespace World

/-- The candidates of a click that can be picked. -/
def Picked (view : Viewport) (screen : Point) (ids : List EntityId) (r : Roster) (id : EntityId) :
    Prop :=
  id ∈ ids ∧ ∃ u, r.unit? id = some u ∧ pickable screen (u.project view)

/-- What a click has come to after some candidates: their screen boxes are fresh, and the latest one
that can be picked is found. -/
structure Considered (view : Viewport) (screen : Point) (ids : List EntityId) (r : Roster)
    (state : Option EntityId × Roster) : Prop where
  unit? : ∀ id, state.2.unit? id
    = if id ∈ ids then (r.unit? id).map (GameUnit.project view) else r.unit? id
  particles : state.2.particles = r.particles
  next : state.2.next = r.next
  latest : EntityId.IsLatest (Picked view screen ids r) state.1

variable {view : Viewport} {screen : Point} {ids ids' : List EntityId} {r : Roster}
  {state state' : Option EntityId × Roster} {id : EntityId} {u : GameUnit}

/-- A unit on the way of a click is projected like the unit that it was before. -/
theorem Considered.exists_project (h : Considered view screen ids r state)
    (found : state.2.unit? id = some u) :
    ∃ u₀, r.unit? id = some u₀ ∧ u.id = u₀.id ∧ u.project view = u₀.project view := by
  rw [h.unit?] at found
  split at found
  case isTrue =>
    obtain ⟨u₀, held, rfl⟩ := Option.map_eq_some_iff.mp found
    exact ⟨u₀, held, rfl, rfl⟩
  case isFalse => exact ⟨u, found, rfl, rfl⟩

theorem Considered.unit?_eq_none (h : Considered view screen ids r state)
    (missing : state.2.unit? id = none) : r.unit? id = none := by
  rw [h.unit?] at missing
  split at missing
  case isTrue => exact Option.map_eq_none_iff.mp missing
  case isFalse => exact missing

/-- One more candidate. -/
theorem Considered.step (keyed : ∀ {id u}, r.unit? id = some u → u.id = id)
    (h : Considered view screen ids r state) (id : EntityId) :
    Considered view screen (ids ++ [id]) r (consider view screen state id) := by
  have mem {id' : EntityId} : id' ∈ ids ++ [id] ↔ id' ∈ ids ∨ id' = id := by simp
  unfold consider
  split
  case h_1 missing =>
    have none := h.unit?_eq_none missing
    refine ⟨?_, h.particles, h.next, h.latest.congr ?_⟩
    · intro id'
      rw [h.unit?]
      by_cases eq : id' = id
      · rw [eq, none, Option.map_none, ite_self, ite_self]
      · simp only [mem, eq, or_false]
    · -- an id without a unit is not picked
      intro id'
      refine and_congr_left ?_
      rintro ⟨u, held, -⟩
      have ne : id' ≠ id := by
        rintro rfl
        rw [none] at held
        cases held
      rw [mem, or_iff_left ne]
  case h_2 u found =>
    obtain ⟨u₀, held, hid, project⟩ := h.exists_project found
    have hid : (u.project view).id = id := hid.trans (keyed held)
    refine ⟨?_, h.particles, h.next, ?_⟩
    · intro id'
      rw [Roster.unit?_setUnit, hid, h.unit?]
      by_cases eq : id' = id
      · rw [if_pos eq, if_pos (mem.mpr (.inr eq)), eq, held, project, Option.map_some]
      · simp only [mem, eq, or_false, if_false]
    · dsimp only
      split
      case isTrue pick =>
        refine (h.latest.later id).congr ?_
        intro id'
        constructor
        · rintro (⟨hid', picked⟩ | rfl)
          · exact ⟨mem.mpr (.inl hid'), picked⟩
          · exact ⟨mem.mpr (.inr rfl), u₀, held, project ▸ pick⟩
        · rintro ⟨hid', picked⟩
          exact (mem.mp hid').imp_left fun hid' => ⟨hid', picked⟩
      case isFalse missed =>
        refine h.latest.congr ?_
        intro id'
        refine and_congr_left ?_
        rintro ⟨u₁, held₁, pick⟩
        have ne : id' ≠ id := by
          rintro rfl
          obtain rfl : u₀ = u₁ := Option.some.inj (held.symm.trans held₁)
          exact missed (project ▸ pick)
        rw [mem, or_iff_left ne]

/-- All candidates. -/
theorem considered_foldl (view : Viewport) (screen : Point)
    (keyed : ∀ {id u}, r.unit? id = some u → u.id = id) (ids : List EntityId) :
    Considered view screen ids r (ids.foldl (consider view screen) (none, r)) := by
  induction ids using List.reverseRecOn with
  | nil => exact ⟨fun id => rfl, rfl, rfl, fun id picked => absurd picked.1 List.not_mem_nil⟩
  | append_singleton ids id ih =>
    rw [List.foldl_append, List.foldl_cons, List.foldl_nil]
    exact ih.step keyed id

/-- The same candidates come to the same. -/
theorem Considered.unique (h : Considered view screen ids r state)
    (h' : Considered view screen ids' r state') (mem : ∀ id, id ∈ ids ↔ id ∈ ids') :
    state = state' := by
  have picked (id : EntityId) : Picked view screen ids r id ↔ Picked view screen ids' r id :=
    and_congr_left fun _ => mem id
  refine Prod.ext ((h.latest.congr picked).unique h'.latest) (Roster.eq_of_unit?_eq ?_ ?_ ?_)
  · intro id
    rw [h.unit?, h'.unit?]
    simp only [mem]
  · rw [h.particles, h'.particles]
  · rw [h.next, h'.next]

end World

end Skirmish
