import Skirmish.Proofs.Map.Clamping
import Skirmish.Proofs.World.Lineage

/-!
# Units that fit

A unit that is not longer than the map on either axis is filed wherever it is spawned, so it joins
the units that are owned.  It is what it was built as, and if it was built inside the map it stands
where it was built.

## Main definitions

* `GameUnit.role` — what a unit is, in a building, a mobile unit or a resource node.
* `Roster.roll`, `Roster.headcount` — the owned units, and how many have a role of some sort.
* `World.Joined` — a world that one more unit has joined.

## Main results

* `Roster.Keyed.perm_roll_setUnit` — a unit with a new id joins the roll.
* `World.Joined.headcount` — whoever joins is counted.
* `World.Numbered.exists_joined` — spawning a unit that fits.
-/

namespace Skirmish

/-! ### Roles -/

/-- What a unit is. -/
inductive GameUnit.Role where
  | building
  | mobile
  | node (kind : Resource)
  deriving DecidableEq

namespace GameUnit

def Role.isBuilding : Role → Bool
  | building => true
  | _ => false

def Role.isMobile : Role → Bool
  | mobile => true
  | _ => false

def Role.isNode : Role → Bool
  | node _ => true
  | _ => false

/-- What a unit is. -/
def role (u : GameUnit) : Role :=
  match u.kind with
  | .building _ => .building
  | .mobile _ => .mobile
  | .resource stock => .node stock.kind

theorem role_place (pos : Point) (u : GameUnit) : (u.place pos).role = u.role := by
  obtain ⟨body, hp, hpMax, kind⟩ := u
  cases kind <;> rfl

theorem role_settle (pos : Point) (u : GameUnit) : (u.settle pos).role = u.role := by
  unfold settle
  split
  case isTrue => rfl
  case isFalse => exact role_place pos u

end GameUnit

/-! ### The roll -/

namespace Roster

/-- The owned units, in the order of their ids. -/
def roll (r : Roster) : List GameUnit := r.units.toList.map Prod.snd

/-- How many of the owned units have a role of some sort. -/
def headcount (r : Roster) (p : GameUnit.Role → Bool) : Nat := r.roll.countP fun u => p u.role

variable {r : Roster} {u : GameUnit}

theorem roll_empty : empty.roll = [] := by
  have units : empty.units.toList = [] := Std.ExtTreeMap.toList_eq_nil_iff.mpr rfl
  rw [roll, units, List.map_nil]

theorem Keyed.mem_roll (h : r.Keyed) : u ∈ r.roll ↔ r.unit? u.id = some u :=
  EntityId.mem_values h.unit

theorem Keyed.nodup_roll (h : r.Keyed) : r.roll.Nodup :=
  (EntityId.ascending_values h.unit).nodup.of_map _

/-- A unit with a new id joins the roll. -/
theorem Keyed.perm_roll_setUnit (h : r.Keyed) (h' : (r.setUnit u).Keyed)
    (new : r.unit? u.id = none) : (r.setUnit u).roll.Perm (u :: r.roll) := by
  have absent : u ∉ r.roll := by
    rw [h.mem_roll, new]
    exact nofun
  refine (List.perm_ext_iff_of_nodup h'.nodup_roll (h.nodup_roll.cons absent)).mpr ?_
  intro v
  rw [h'.mem_roll, unit?_setUnit, List.mem_cons, h.mem_roll]
  split
  case isTrue eq =>
    rw [eq, new, Option.some.injEq, eq_comm]
    exact (or_iff_left nofun).symm
  case isFalse ne =>
    exact (or_iff_right fun eq => ne (congrArg GameUnit.id eq)).symm

end Roster

/-! ### Joining -/

namespace World

/-- A world that one more unit has joined. -/
structure Joined (u : GameUnit) (w w' : World) : Prop where
  numbered : w'.Numbered
  map : w'.map = w.map
  particles : w'.roster.particles = w.roster.particles
  roll : w'.roster.roll.Perm (u :: w.roster.roll)

variable {w w' : World} {u : GameUnit}

theorem Joined.headcount (h : Joined u w w') (p : GameUnit.Role → Bool) :
    w'.roster.headcount p = w.roster.headcount p + if p u.role then 1 else 0 := by
  rw [Roster.headcount, h.roll.countP_eq, List.countP_cons, Roster.headcount]

/-- A unit that is not longer than the map joins the world that it is spawned in. -/
theorem Numbered.exists_joined (h : w.Numbered) {build : EntityId → Except Fault GameUnit}
    {spawned : Option EntityId} (wide : w.map.grid.width.toNat < 2 ^ 26)
    (tall : w.map.grid.height.toNat < 2 ^ 26) (built : build ⟨w.roster.next⟩ = .ok u)
    (fits : 2 * u.bounds.half.x.toInt ≤ Map.extent w.map.grid.width ∧
      2 * u.bounds.half.y.toInt ≤ Map.extent w.map.grid.height)
    (spawn : w.spawnUnit build = .ok (spawned, w')) :
    ∃ u', spawned = some u'.id ∧ u'.role = u.role ∧
      (w.index.area.Covers u.bounds → u'.pos = u.pos) ∧ Joined u' w w' := by
  have numbered := (h.spawnUnit spawn).1
  obtain ⟨u₁, fitted, u', filed, index, -, built', clamped, settled, hid, put, result⟩ :=
    settled_of_spawnUnit spawn
  obtain rfl := Except.ok.inj (built.symm.trans built')
  obtain ⟨half, x, y⟩ := Map.nearest_of_clamp wide tall clamped
  have bounds : u'.bounds = fitted := by
    have moved : u'.bounds = u.bounds.moveTo fitted.center := by
      rw [settled]
      exact congrArg Entry.box (Entry.ofUnit_settle u fitted.center)
    exact moved.trans (congrArg (Box.mk fitted.center) half.symm)
  have covers : w.index.area.Covers u'.bounds := by
    rw [bounds, Map.covers_bounds_iff wide tall h.inStep.bounds, half]
    exact ⟨x.inside fits.1, y.inside fits.2⟩
  have isFiled : filed = true := Quadtree.filed_of_put (e := .ofUnit u') covers put
  rcases result with ⟨-, rfl, rfl⟩ | ⟨refused, -⟩
  · refine ⟨u', congrArg some hid.symm, settled ▸ GameUnit.role_settle _ _, fun inside => ?_,
      numbered, rfl, rfl, ?_⟩
    · obtain ⟨inside_x, inside_y⟩ := (Map.covers_bounds_iff wide tall h.inStep.bounds).mp inside
      have same : fitted = u.bounds :=
        Box.eq_of_toInt_eq half (x.eq_of_inside inside_x) (y.eq_of_inside inside_y)
      exact congrArg Box.center (bounds.trans same)
    · refine Roster.Keyed.perm_roll_setUnit ⟨h.inStep.unit_id, h.inStep.particle_id⟩
        numbered.inStep.keyed (Option.eq_none_iff_forall_ne_some.mpr fun v held => ?_)
      rw [hid] at held
      exact h.roster.not_owns_next (.inl (Option.isSome_of_mem held))
  · rw [isFiled] at refused
    cases refused

end World

end Skirmish
