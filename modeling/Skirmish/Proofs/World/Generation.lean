import Skirmish.Proofs.World.Beginning
import Skirmish.Proofs.World.Runs

/-!
# Founded matches

A match that is founded has all that its settings ask for, whatever the land looks like, wherever
the directions of the houses lead and whatever is drawn.  Its town stands on grass in the middle of
the map, and its resource nodes lie around it where nodes of their kinds are found.

## Main definitions

* `World.Scattered` — a world that so many attempts to place resource nodes have led to.
* `World.Founded` — what a match promises.

## Main results

* `World.founded_of_generateBy` — a match keeps what it promises, by any means with fair dice.
-/

namespace Skirmish

namespace World

variable {σ : Type} {means : Means σ} {s : Settings} {w : World}

/-- As many units are filed as are owned. -/
theorem Agrees.size_unit (h : w.Agrees) : w.index.size .unit = w.roster.units.size := by
  refine EntityId.size_eq_of_isSome fun id => ?_
  rw [← Std.ExtTreeMap.contains_eq_isSome_getElem?]
  exact h.contains_unit id

/-! ### What is promised -/

/-- A world that so many attempts to place resource nodes have led to from the colonized land. -/
structure Scattered (means : Means σ) (s : Settings) (w : World) (outcomes : List Bool) : Prop where
  made : ∃ land source area town source', generateBy means s = found means s source land ∧
    land.map.bounds = .ok area ∧ land.colonize means s area.center = .ok town ∧
      Attempts means.dice area outcomes ⟨town, source⟩ ⟨w, source'⟩
  exhausts : Exhausts (min (20 * s.resources.toNat) 18446744073709551615) s.resources.toNat outcomes
  placed : w.roster.headcount GameUnit.Role.isNode = outcomes.count true

/-- What a match promises. -/
structure Founded (means : Means σ) (s : Settings) (w : World) : Prop where
  buildings : w.roster.headcount GameUnit.Role.isBuilding = 1 + s.houses.toNat
  mobiles : w.roster.headcount GameUnit.Role.isMobile = s.villagers.toNat
  nodes : w.roster.headcount GameUnit.Role.isNode ≤ s.resources.toNat
  particles : w.roster.particles = ∅
  /-- All of them lie inside the playable area and are filed. -/
  agrees : w.Agrees
  size : w.index.size .unit = w.roster.units.size
  green : w.map.HasGreen
  /-- Every resource node stands where nodes of its kind may be. -/
  suits : ∀ id u kind, w.unit? id = some u → u.role = .node kind → w.map.Suits u.pos kind
  scattered : ∃ outcomes, Scattered means s w outcomes

/-- A match is founded on land of the size that is asked for, on which nobody lives. -/
theorem exists_land (generated : generateBy means s = .ok w) :
    ∃ land source, generateBy means s = found means s source land ∧
      land.Populated 0 0 0 ∧ land.map.HasSize s.mapSize := by
  have opened := generated
  simp only [generateBy, World.ofSize, Checked.bind_eq_ok_iff] at opened
  obtain ⟨w₀, started, map, shaped, -⟩ := opened
  have same := Map.sameSize_shape shaped
  obtain ⟨nobody, empty⟩ := populated_onMap started
  have size : w₀.map.HasSize s.mapSize := empty ▸ Map.hasSize_resize Map.empty s.mapSize
  refine ⟨{ w₀ with map }, (means.dice.word (means.dice.seeded s.seed)).2, ?_,
    nobody.remap same, size.congr same⟩
  rw [generateBy, World.ofSize, started, Checked.ok_bind]
  dsimp only
  rw [shaped, Checked.ok_bind]

/-- A match keeps what it promises, by any means with fair dice. -/
theorem founded_of_generateBy (fair : means.dice.IsFair) (generated : generateBy means s = .ok w) :
    Founded means s w := by
  obtain ⟨land, source, founding, nobody, size⟩ := exists_land generated
  have founded := founding.symm.trans generated
  simp only [found, Checked.bind_eq_ok_iff, Except.ok.injEq] at founded
  obtain ⟨area, bounds, town, colonized, ⟨w, source'⟩, scattered, rfl⟩ := founded
  obtain ⟨populated, same, green⟩ := nobody.colonize size bounds colonized
  obtain ⟨outcomes, made, exhausts⟩ := attempts_of_scatter scattered
  obtain ⟨after, unchanged, suits⟩ := populated.stocked.attempts fair (size.congr same)
    ((Map.bounds_congr same).trans bounds) made
  have agrees := after.numbered.inStep.agrees
  have attempts : attemptsFor s.resources.toNat
      = min (20 * s.resources.toNat) 18446744073709551615 := by
    rw [attemptsFor, Nat.mul_comm]
    rfl
  have placed : w.roster.headcount GameUnit.Role.isNode = outcomes.count true := by
    rw [after.nodes, Nat.zero_add]
  constructor
  case buildings => rw [after.buildings, Nat.zero_add]
  case mobiles => rw [after.mobiles, Nat.zero_add]
  case nodes => exact placed ▸ exhausts.count_le
  case particles => exact after.particles
  case agrees => exact agrees
  case size => exact agrees.size_unit
  case green => exact unchanged ▸ green
  case suits =>
    intro id u kind found role
    obtain rfl := after.numbered.inStep.unit_id found
    exact unchanged ▸ suits u (after.numbered.inStep.keyed.mem_roll.mpr found) kind role
  case scattered =>
    exact ⟨outcomes, ⟨land, source, area, town, source', founding, bounds, colonized, made⟩,
      attempts ▸ exhausts, placed⟩

/-- A village with one house, which lies to the east. -/
def village : Settings := { mapSize := .micro, houses := 1, resources := 5 }

/-- The usual means, in a world where every direction is east. -/
def eastward : Means Random.Source := { Means.usual with cos := fun _ => 1, sin := fun _ => 0 }

theorem founded_of_village :
    ∃ w, generateBy eastward village = .ok w ∧ Founded eastward village w := by
  have moderate : eastward.IsModerate village.houses.toNat := by
    intro i _
    show Means.IsNear 1 ∧ Means.IsNear 0
    decide +kernel
  obtain ⟨w, generated⟩ :=
    exists_generateBy Random.ChaCha.isFair_dice moderate (by decide) (by decide)
  exact ⟨w, generated, founded_of_generateBy Random.ChaCha.isFair_dice generated⟩

end World

end Skirmish
