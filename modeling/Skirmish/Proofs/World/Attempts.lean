import Skirmish.Proofs.World.Ground

/-!
# Attempts to place

Resource nodes are placed by trial and error.  An attempt leaves the world as it is, or it spawns a
node on dry land away from the town.  Attempts go on until there are as many nodes as there are to
be, or until their number is exhausted.

## Main definitions

* `World.Attempts` — attempts in a row, with what came of each.
* `World.Exhausts` — what came of them tells when to stop.

## Main results

* `World.of_scatterOne` — all that an attempt can do.
* `World.attempts_of_scatter` — scattering is attempts in a row, until it is time to stop.
-/

namespace Skirmish

namespace World

variable {σ : Type} {dice : Random.Dice σ} {area : Box}

/-! ### One attempt -/

/-- An attempt that spawns a resource node at a place. -/
structure Spawns (dice : Random.Dice σ) (area : Box) (f : Founding σ) (place : Point)
    (kind : Resource) : Prop where
  drawn : ∃ source, drawPlace dice area f.source = .ok (place, source) ∧
    kind = (drawResource dice (f.world.map.grid.terrainAt? (f.world.map.cellOf place).1
      (f.world.map.cellOf place).2) source).1
  dry : f.world.map.grid.terrainAt? (f.world.map.cellOf place).1 (f.world.map.cellOf place).2
    ≠ some .water
  far : (12 * 32) * (12 * 32) ≤ squaredDistance place.x.toInt place.y.toInt
    area.center.x.toInt area.center.y.toInt

/-- All that an attempt can do. -/
theorem of_scatterOne {f f' : Founding σ} {isPlaced : Bool}
    (tried : scatterOne dice area f = .ok (isPlaced, f')) :
    (isPlaced = false ∧ f'.world = f.world) ∨
      ∃ place kind spawned, Spawns dice area f place kind ∧
        f.world.spawnResource place kind = .ok (spawned, f'.world) ∧
          isPlaced = spawned.isSome := by
  simp only [scatterOne, Checked.bind_eq_ok_iff] at tried
  obtain ⟨⟨place, source⟩, drawn, tried⟩ := tried
  split at tried
  case isTrue =>
    -- water
    obtain ⟨rfl, rfl⟩ := Prod.mk.inj (Except.ok.inj tried)
    exact .inl ⟨rfl, rfl⟩
  case isFalse dry =>
    simp only [Checked.bind_eq_ok_iff] at tried
    obtain ⟨distance, hdistance, diameter, hdiameter, limit, hlimit, tried⟩ := tried
    split at tried
    case isTrue =>
      -- too close to the town
      obtain ⟨rfl, rfl⟩ := Prod.mk.inj (Except.ok.inj tried)
      exact .inl ⟨rfl, rfl⟩
    case isFalse far =>
      simp only [Checked.bind_eq_ok_iff] at tried
      obtain ⟨⟨spawned, w⟩, spawn, tried⟩ := tried
      obtain ⟨rfl, rfl⟩ := Prod.mk.inj (Except.ok.inj tried)
      refine .inr ⟨place, _, spawned, ⟨⟨source, drawn, rfl⟩, dry, ?_⟩, spawn, rfl⟩
      have side : diameter.toInt = 12 * 32 := Coord.check_eq_ok_iff.mp hdiameter
      rw [Int32.lt_iff_toInt_lt, toInt_of_distanceSquared hdistance, Coord.toInt_of_square hlimit,
        side] at far
      exact Int.not_lt.mp far

/-! ### Attempts in a row -/

/-- Attempts in a row, with what came of each. -/
inductive Attempts (dice : Random.Dice σ) (area : Box) :
    List Bool → Founding σ → Founding σ → Prop
  | nil (f : Founding σ) : Attempts dice area [] f f
  | cons {isPlaced : Bool} {outcomes : List Bool} {f f₁ f' : Founding σ} :
    scatterOne dice area f = .ok (isPlaced, f₁) → Attempts dice area outcomes f₁ f' →
      Attempts dice area (isPlaced :: outcomes) f f'

/-- Attempts that stop at the right time: before each of them there is something left to place, and
after the last one there is nothing left to place or no attempt left to make. -/
structure Exhausts (attempts goal : Nat) (outcomes : List Bool) : Prop where
  length_le : outcomes.length ≤ attempts
  count_le : outcomes.count true ≤ goal
  unfinished : ∀ n < outcomes.length, (outcomes.take n).count true < goal
  finished : outcomes.length = attempts ∨ outcomes.count true = goal

theorem Exhausts.cons {attempts goal : Nat} {isPlaced : Bool} {outcomes : List Bool}
    (h : Exhausts attempts (if isPlaced then goal else goal + 1) outcomes) :
    Exhausts (attempts + 1) (goal + 1) (isPlaced :: outcomes) := by
  have count (l : List Bool) : (isPlaced :: l).count true
      = l.count true + if isPlaced then 1 else 0 := by
    rw [List.count_cons, beq_true]
  have goals : goal + 1 = (if isPlaced then goal else goal + 1) + if isPlaced then 1 else 0 := by
    cases isPlaced <;> rfl
  constructor
  case length_le => exact Nat.succ_le_succ h.length_le
  case count_le =>
    rw [count, goals]
    exact Nat.add_le_add_right h.count_le _
  case unfinished =>
    intro n lt
    cases n with
    | zero => exact Nat.succ_pos goal
    | succ n =>
      rw [List.take_succ_cons, count, goals]
      exact Nat.add_lt_add_right (h.unfinished n (Nat.lt_of_succ_lt_succ lt)) _
  case finished =>
    rw [count, goals, Nat.add_right_cancel_iff]
    exact h.finished.imp_left (congrArg Nat.succ)

/-- Scattering is attempts in a row, until it is time to stop. -/
theorem attempts_of_scatter {attempts goal : Nat} {f f' : Founding σ}
    (scattered : scatter dice area attempts goal f = .ok f') :
    ∃ outcomes, Attempts dice area outcomes f f' ∧ Exhausts attempts goal outcomes := by
  induction attempts generalizing goal f with
  | zero =>
    obtain rfl := Except.ok.inj scattered
    exact ⟨[], .nil f, Nat.le_refl 0, Nat.zero_le goal, nofun, .inl rfl⟩
  | succ attempts ih =>
    cases goal with
    | zero =>
      obtain rfl := Except.ok.inj scattered
      exact ⟨[], .nil f, Nat.zero_le _, Nat.le_refl 0, nofun, .inr rfl⟩
    | succ goal =>
      simp only [World.scatter, Checked.bind_eq_ok_iff] at scattered
      obtain ⟨⟨isPlaced, f₁⟩, tried, scattered⟩ := scattered
      obtain ⟨outcomes, made, stop⟩ := ih scattered
      exact ⟨isPlaced :: outcomes, .cons tried made, stop.cons⟩

end World

end Skirmish
