import Skirmish.Proofs.World.Fate
import Skirmish.Proofs.World.Lineage

/-!
# Hit points

A unit starts in full health, and only damage and healing change its hit points.  So it never has
more of them than it can have, and it loses the last one by damage or not at all.  A unit without
hit points stays without, since nothing in a world heals, and when it has gone its id is not used
again: so a unit dies once.

## Main definitions

* `GameUnit.Attainable` — the units that can be made.
* `GameUnit.wound` — what any sum of damage leaves of a unit.
* `World.Accounts` — where the hit points of a unit come from.
* `World.ReachableBy` — the worlds that some operations reach.
* `World.Fells`, `World.Spent` — a death, and an id whose unit does not live and never will.

## Main results

* `InStep.accounts` — hit points are kept, or a unit is new, or it is damaged.
* `Numbered.fells_iff` — units die of damage, and the reply says so.
* `Numbered.spent_perform` — what is spent stays spent.
* `ReachableBy.healthy` — no unit has more hit points than it can have.
-/

namespace Skirmish

/-! ### Units -/

namespace GameUnit

/-- The units that can be made: each starts in full health, is damaged and healed, and changes in
ways that have nothing to do with its hit points. -/
inductive Attainable : GameUnit → Prop
  | create (body : Particle) (hp : UInt32) (kind : UnitKind) : Attainable (create body hp kind)
  | damage {u : GameUnit} (amount : UInt32) : Attainable u → Attainable (u.damage amount)
  | heal {u : GameUnit} (amount : UInt32) : Attainable u → Attainable (u.heal amount)
  | change {u u' : GameUnit} : Attainable u → u'.health = u.health → Attainable u'

variable {u : GameUnit}

/-- What is left of a unit after damage of any sum. -/
def wound (sum : Nat) (u : GameUnit) : GameUnit :=
  { u with hp := UInt32.ofNat (u.hp.toNat - sum) }

theorem toNat_hp_wound (sum : Nat) (u : GameUnit) : (u.wound sum).hp.toNat = u.hp.toNat - sum :=
  UInt32.toNat_ofNat_of_lt' (Nat.lt_of_le_of_lt (Nat.sub_le _ _) u.hp.toNat_lt)

@[simp]
theorem wound_zero (u : GameUnit) : u.wound 0 = u := by
  rw [wound, Nat.sub_zero, UInt32.ofNat_toNat]

/-- Damage adds up. -/
theorem wound_wound (m n : Nat) (u : GameUnit) : (u.wound m).wound n = u.wound (m + n) := by
  rw [wound, toNat_hp_wound, Nat.sub_sub]
  rfl

/-- The dead do not come back by damage. -/
theorem hp_wound_of_dead (sum : Nat) (dead : u.hp = 0) : (u.wound sum).hp = 0 := by
  rw [← UInt32.toNat_inj, toNat_hp_wound, dead]
  exact Nat.zero_sub _

theorem hp_damage_le (amount : UInt32) (u : GameUnit) : (u.damage amount).hp ≤ u.hp := by
  have left : (u.damage amount).hp.toNat = _ := toNat_hp_wound amount.toNat u
  rw [UInt32.le_iff_toNat_le, left]
  exact Nat.sub_le _ _

theorem hp_heal_le (amount : UInt32) (u : GameUnit) : (u.heal amount).hp ≤ u.hpMax := by
  have le := Nat.min_le_right (u.hp.toNat + amount.toNat) u.hpMax.toNat
  have small := Nat.lt_of_le_of_lt le u.hpMax.toNat_lt
  rw [UInt32.le_iff_toNat_le, heal, UInt32.toNat_ofNat_of_lt' small]
  exact le

/-- No unit has more hit points than it can have. -/
theorem Attainable.hp_le (h : u.Attainable) : u.hp ≤ u.hpMax := by
  induction h with
  | create body hp kind => exact UInt32.le_refl _
  | damage amount _ ih => exact UInt32.le_trans (hp_damage_le amount _) ih
  | heal amount _ _ => exact hp_heal_le amount _
  | change _ same ih =>
    obtain ⟨hp, hpMax⟩ := Prod.mk.inj same
    rw [hp, hpMax]
    exact ih

theorem diesOf_iff {amount : UInt32} :
    u.diesOf amount = true ↔ u.hp ≠ 0 ∧ (u.damage amount).hp = 0 := by
  simp only [diesOf, isDead, Bool.and_eq_true, Bool.not_eq_true', decide_eq_false_iff_not,
    decide_eq_true_eq, ne_eq]

end GameUnit

theorem UnitPreset.attainable_build (id : EntityId) (preset : UnitPreset) :
    (preset.build id).Attainable := by
  cases preset <;> exact .create ..

namespace World

variable {w w₁ w' : World} {op : Op} {reply : Option Reply} {id : EntityId}

/-! ### Operations -/

/-- Where the hit points of a unit come from: the unit had them before, it is new, or it was
damaged. -/
inductive Accounts (w : World) (id : EntityId) (health : UInt32 × UInt32) : Op → Prop
  | kept {op : Op} : (w.unit? id).map GameUnit.health = some health → Accounts w id health op
  | born {build : EntityId → Except Fault GameUnit} {u : GameUnit} : id = ⟨w.roster.next⟩ →
    build id = .ok u → u.health = health → Accounts w id health (.spawnUnit build)
  | wounded {amount : UInt32} {u : GameUnit} : w.unit? id = some u →
    (u.damage amount).health = health → Accounts w id health (.damage id amount)

/-- Every operation accounts for the hit points of the units after it. -/
theorem InStep.accounts {u' : GameUnit} (h : w.InStep)
    (performed : op.perform w = .ok (reply, w')) (found : w'.unit? id = some u') :
    w.Accounts id u'.health op := by
  have fate := (h.fates performed).unit id
  rw [found] at fate
  cases fate with
  | kept _ rel =>
    have same := map_eq_of_rel (f := GameUnit.health)
      (fun _ _ => GameUnit.isLasting_health.becomes) rel
    exact .kept same.symm
  | born new built becomes eq =>
    obtain rfl := Option.some.inj eq
    exact .born new built (GameUnit.isLasting_health.becomes becomes).symm
  | erased none => cases none
  | damaged eq =>
    obtain ⟨u, owned, rfl⟩ := Option.map_eq_some_iff.mp eq.symm
    exact .wounded owned rfl
  | harvested _ eq =>
    obtain ⟨u, owned, rfl⟩ := Option.map_eq_some_iff.mp eq.symm
    exact .kept (by rw [owned, Option.map_some, GameUnit.eq_harvested u GameUnit.health_harvest])

/-- A unit that has no hit points left, or that is no more and whose id is not used again. -/
def Spent (w : World) (id : EntityId) : Prop :=
  id.number < w.roster.next ∧ ∀ u, w.unit? id = some u → u.hp = 0

/-- A unit loses its last hit point between two states of a world. -/
def Fells (w w' : World) (id : EntityId) : Prop :=
  ∃ u u', w.unit? id = some u ∧ w'.unit? id = some u' ∧ u.hp ≠ 0 ∧ u'.hp = 0

/-- No damage, no order and no passing of time brings a unit back. -/
theorem Numbered.spent_perform (h : w.Numbered) (performed : op.perform w = .ok (reply, w'))
    (spent : w.Spent id) : w'.Spent id := by
  obtain ⟨old, dead⟩ := spent
  obtain ⟨-, succeeds, -⟩ := h.perform performed
  refine ⟨UInt32.lt_of_lt_of_le old succeeds.next, ?_⟩
  intro u' found
  cases h.inStep.accounts performed found with
  | kept held =>
    obtain ⟨u, owned, same⟩ := Option.map_eq_some_iff.mp held
    exact (congrArg Prod.fst same).symm.trans (dead u owned)
  | born new =>
    obtain rfl := new
    exact absurd old (UInt32.lt_irrefl _)
  | wounded owned same =>
    exact (congrArg Prod.fst same).symm.trans (GameUnit.hp_wound_of_dead _ (dead _ owned))

/-- Units die of damage and of nothing else, and the reply says so. -/
theorem Numbered.fells_iff (h : w.Numbered) (performed : op.perform w = .ok (reply, w')) :
    w.Fells w' id ↔ ∃ amount, op = .damage id amount ∧ reply = some (.killed (some true)) := by
  constructor
  · rintro ⟨u, u', owned, found, alive, dead⟩
    cases h.inStep.accounts performed found with
    | kept held =>
      rw [owned] at held
      have same := congrArg Prod.fst (Option.some.inj held)
      exact absurd (same.trans dead) alive
    | born new =>
      obtain rfl := new
      exact absurd (.inl (Option.isSome_of_eq_some owned)) h.roster.not_owns_next
    | @wounded amount v owned' same =>
      obtain rfl := Option.some.inj (owned.symm.trans owned')
      have killed := (congrArg Prod.fst same).trans dead
      refine ⟨amount, rfl, ?_⟩
      rw [Op.perform, damage_of_unit? owned, GameUnit.diesOf_iff.mpr ⟨alive, killed⟩] at performed
      exact (congrArg Prod.fst (Except.ok.inj performed)).symm
  · rintro ⟨amount, rfl, rfl⟩
    obtain ⟨killed, rfl⟩ := Prod.mk.inj (Except.ok.inj performed)
    replace killed := Reply.killed.inj (Option.some.inj killed)
    cases owned : w.unit? id with
    | none =>
      rw [World.damage, owned] at killed
      cases killed
    | some u =>
      rw [damage_of_unit? owned] at killed
      obtain ⟨alive, dead⟩ := GameUnit.diesOf_iff.mp (Option.some.inj killed)
      refine ⟨u, u.damage amount, owned, ?_, alive, dead⟩
      rw [h.inStep.unit?_damage, owned, Option.map_some, if_pos rfl]

theorem Spent.not_fells (h : w.Spent id) : ¬ w.Fells w' id := by
  rintro ⟨u, u', owned, -, alive, -⟩
  exact alive (h.2 u owned)

theorem Fells.spent (fells : w.Fells w' id) (h : w'.Numbered) : w'.Spent id := by
  obtain ⟨u, u', -, owned, -, dead⟩ := fells
  refine ⟨h.roster.old (.inl (Option.isSome_of_eq_some owned)), ?_⟩
  intro v found
  rw [owned] at found
  exact Option.some.inj found ▸ dead

/-! ### Reachable worlds -/

/-- An operation that spawns no units but such as can be made. -/
def Op.IsHonest : Op → Prop
  | spawnUnit build => ∀ id u, build id = .ok u → u.Attainable
  | _ => True

/-- A world in which no unit has more hit points than it can have. -/
structure Healthy (w : World) : Prop where
  inStep : w.InStep
  hp_le : ∀ id u, w.unit? id = some u → u.hp ≤ u.hpMax

theorem Healthy.perform (h : w.Healthy) (honest : op.IsHonest)
    (performed : op.perform w = .ok (reply, w')) : w'.Healthy := by
  refine ⟨h.inStep.perform performed, ?_⟩
  intro id u' found
  cases h.inStep.accounts performed found with
  | kept held =>
    obtain ⟨u, owned, same⟩ := Option.map_eq_some_iff.mp held
    obtain ⟨hp, hpMax⟩ := Prod.mk.inj same
    exact hp ▸ hpMax ▸ h.hp_le id u owned
  | born new built same =>
    obtain ⟨hp, hpMax⟩ := Prod.mk.inj same
    exact hp ▸ hpMax ▸ (honest _ _ built).hp_le
  | @wounded amount u owned same =>
    obtain ⟨hp, hpMax⟩ := Prod.mk.inj same
    exact hp ▸ hpMax ▸ UInt32.le_trans (GameUnit.hp_damage_le amount u) (h.hp_le id u owned)

theorem healthy_onMap {map : Map} {capacity : Nat} (started : World.onMap map capacity = .ok w) :
    w.Healthy := by
  have inStep : w.InStep := .onMap started
  obtain ⟨area, -, rfl⟩ := of_onMap started
  refine ⟨inStep, fun id u found => ?_⟩
  cases found

theorem isFounding_healthy : IsFounding Healthy where
  remap h same := ⟨isFounding_inStep.remap h.inStep same, h.hp_le⟩
  spawn preset _ h spawned := by
    have honest : (Op.spawnUnit fun id => .ok (preset.build id)).IsHonest := by
      rintro id u built
      exact Except.ok.inj built ▸ preset.attainable_build id
    exact h.perform honest (Checked.map_eq_ok_iff.mpr ⟨_, spawned, rfl⟩)

/-- The worlds that operations of a kind reach from an empty world or from a founded match. -/
inductive ReachableBy (allowed : Op → Prop) : World → Prop
  | onMap {map : Map} {capacity : Nat} {w : World} :
    World.onMap map capacity = .ok w → ReachableBy allowed w
  | generate {s : Settings} {w : World} : World.generate s = .ok w → ReachableBy allowed w
  | perform {op : Op} {reply : Option Reply} {w w' : World} : ReachableBy allowed w → allowed op →
    op.perform w = .ok (reply, w') → ReachableBy allowed w'

variable {allowed : Op → Prop}

theorem ReachableBy.reachable (h : w.ReachableBy allowed) : w.Reachable := by
  induction h with
  | onMap started => exact .onMap started
  | generate generated => exact .generate generated
  | perform _ _ performed ih => exact ih.perform performed

theorem ReachableBy.run {ops : List Op} {replies : List Reply} (h : w.ReachableBy allowed)
    (each : ∀ op ∈ ops, allowed op) (ran : World.run ops w = .ok (replies, w')) :
    w'.ReachableBy allowed := by
  induction ops generalizing w replies with
  | nil =>
    obtain ⟨-, rfl⟩ := Prod.mk.inj (Except.ok.inj ran)
    exact h
  | cons op ops ih =>
    simp only [World.run, Checked.bind_eq_ok_iff, Except.ok.injEq, Prod.mk.injEq] at ran
    obtain ⟨⟨reply, w₁⟩, performed, ⟨rest, w₂⟩, ran, -, rfl⟩ := ran
    exact ih (h.perform (each op List.mem_cons_self) performed)
      (fun op mem => each op (List.mem_cons_of_mem _ mem)) ran

/-- No unit ever has more hit points than it can have. -/
theorem ReachableBy.healthy (h : w.ReachableBy Op.IsHonest) : w.Healthy := by
  induction h with
  | onMap started => exact healthy_onMap started
  | generate generated => exact isFounding_healthy.generateBy healthy_onMap generated
  | perform _ honest performed ih => exact ih.perform honest performed

end World

end Skirmish
