import Skirmish.Proofs.Entity.Gait
import Skirmish.Proofs.Single.Nearest

/-!
# Where a unit stalls

A tick leaves a villager unchanged exactly if it stands on its target.  It stands there by its
position, which is rounded; its exact position may be another one.  Walking ends on the target
exactly, since a step that leads nowhere is within reach of it.  But an order to the very point that
a villager stands on ends its walk as well, wherever within the cell it is by then.

## Main definitions

* `Point.Fits` — points whose coordinates are single-precision numbers.
* `Movement.onTarget` — whether the exact position is the target.
* `GameUnit.astray` — whether the last order has stopped a unit next to its target.

## Main results

* `Movement.onTarget_of_idle_step` — a step that a unit does not go on from ends on the target.
* `stall_of_run` — when a tick leaves a villager unchanged, and where it is then.
* `halted_villager_stalls` — a villager that stalls next to its target.
-/

namespace Skirmish

/-- Whether two positions are the same, coordinate by coordinate. -/
def Displacement.same (u v : Displacement) : Bool := u.x == v.x && u.y == v.y

/-- A point whose coordinates are single-precision numbers, having 24 bits at most. -/
def Point.Fits (p : Point) : Prop := p.x.toInt.natAbs < 2 ^ 24 ∧ p.y.toInt.natAbs < 2 ^ 24

instance (p : Point) : Decidable p.Fits := inferInstanceAs (Decidable (_ ∧ _))

theorem Displacement.ofPoint_same {p : Point} (h : p.Fits) :
    (ofPoint p).same (ofPoint p) = true := by
  rw [same, ofPoint, Single.beq_self (Single.value_ofCoord h.1).1,
    Single.beq_self (Single.value_ofCoord h.2).1]
  rfl

theorem Displacement.toPoint_ofPoint {p : Point} (h : p.Fits) : (ofPoint p).toPoint = p := by
  rw [toPoint, ofPoint, Single.round_ofCoord h.1, Single.round_ofCoord h.2]

namespace Movement

variable {m : Movement}

theorem isMoving_retarget (target : Point) : (m.retarget target).isMoving = false := by
  have zero : Displacement.zero.isZero = true := by decide +kernel
  rw [isMoving, retarget, zero]
  rfl

theorem target_step : m.step.target = m.target := by
  unfold step
  split <;> rfl

/-- Whether the exact position is the target. -/
def onTarget (m : Movement) : Bool := m.exact.same (.ofPoint m.target)

/-- A step of length zero is taken within reach of the target. -/
theorem distance_le_reach (speed : m.speed = 2) (fits : m.target.Fits)
    (still : (m.remaining.rescale m.distance m.speed).isZero = true)
    (arrived : (m.exact.add (m.remaining.rescale m.distance m.speed)).toPoint = m.target) :
    m.distance ≤ m.reach := by
  obtain ⟨still_x, still_y⟩ := Bool.and_eq_true_iff.mp still
  obtain ⟨arrived_x, arrived_y⟩ := Point.mk.inj arrived
  have number {x a b c : Float32} (still : ((a - x) / b * c == 0) = true) : x.isNaN = false := by
    by_contra nan
    rw [Single.not_beq_zero_of_isNaN a b c (Bool.eq_true_of_not_eq_false nan)] at still
    cases still
  have reach : m.reach = 2 := by
    rw [Movement.reach, speed]
    decide +kernel
  rw [reach]
  exact Single.length_le_two
    (Single.within_sub_of_round fits.1 (number still_x) still_x arrived_x)
    (Single.within_sub_of_round fits.2 (number still_y) still_y arrived_y)

/-- A step that a unit does not go on from ends on the target. -/
theorem onTarget_of_idle_step (speed : m.speed = 2) (fits : m.target.Fits)
    (idle : m.step.Idle m.step.position) : m.step.onTarget = true := by
  unfold step at idle ⊢
  split at idle
  case isTrue near =>
    rw [if_pos near]
    exact Displacement.ofPoint_same fits
  case isFalse far =>
    obtain ⟨arrived, still⟩ := idle
    have still : (m.remaining.rescale m.distance m.speed).isZero = true := by
      simpa [isMoving] using still
    exact absurd (distance_le_reach speed fits still arrived.symm) far

end Movement

namespace GameUnit

/-- Operations whose points have coordinates that are single-precision numbers. -/
def Op.Fits : Op → Prop
  | order target _ => target.Fits
  | place pos => pos.Fits
  | _ => True

instance : DecidablePred Op.Fits
  | .order target _ => inferInstanceAs (Decidable target.Fits)
  | .place pos => inferInstanceAs (Decidable pos.Fits)
  | .damage _ | .heal _ | .tick => .isTrue trivial

/-- Whether a unit stands on its target by its position only. -/
def isBeside (u : GameUnit) : Bool :=
  u.movement?.any fun m => decide (m.target = u.pos) && !m.onTarget

/-- Whether the last order or placement was an order that has stopped a unit next to its target, as
a note along a run. -/
def astray : Op → GameUnit → GameUnit → Bool → Bool
  | .order _ _, _, u', _ => u'.isBeside
  | .place _, _, _, _ => false
  | .damage _, _, _, before => before
  | .heal _, _, _, before => before
  | .tick, _, _, before => before

/-- A villager whose exact position is known while it stands on its target. -/
structure Stands (u : GameUnit) (m : Movement) (astray : Bool) : Prop where
  walks : u.Walks m
  speed : m.speed = 2
  stand : m.stand = .villagerStand
  walk : m.walk = .villagerWalk
  fits : m.target.Fits
  pos : u.pos = m.position
  idle : astray = true → m.Idle u.pos
  exact : m.Idle u.pos → m.onTarget = !astray

variable {u u' : GameUnit} {m m' : Movement} {op : Op} {stray : Bool}

theorem Walks.isBeside (h : u.Walks m) :
    u.isBeside = (decide (m.target = u.pos) && !m.onTarget) := by
  rw [GameUnit.isBeside, h.movement?, Option.any_some]

/-- One operation. -/
theorem Stands.exists_perform (h : u.Stands m stray) (op : Op) (fits : op.Fits) :
    ∃ u' m', op.perform u = .ok u' ∧ u'.Stands m' (astray op u u' stray) := by
  obtain ⟨u', m', performed, walks', acts⟩ := h.walks.exists_perform op
  obtain ⟨speed, stand, walk⟩ := acts.outfit
  -- what is left to show concerns the target and the exact position
  suffices m'.target.Fits ∧ u'.pos = m'.position ∧
      (astray op u u' stray = true → m'.Idle u'.pos) ∧
      (m'.Idle u'.pos → m'.onTarget = !astray op u u' stray) from
    ⟨u', m', performed, walks', speed.trans h.speed, stand.trans h.stand, walk.trans h.walk,
      this.1, this.2.1, this.2.2.1, this.2.2.2⟩
  cases op with
  | order target shift =>
    obtain ⟨rfl, pos, -⟩ := acts
    rw [astray, walks'.isBeside]
    refine ⟨fits, pos.trans h.pos, fun beside => ?_, fun idle => ?_⟩
    · obtain ⟨here, -⟩ := Bool.and_eq_true_iff.mp beside
      exact ⟨of_decide_eq_true here, m.isMoving_retarget target⟩
    · rw [decide_eq_true idle.1, Bool.true_and, Bool.not_not]
  | place pos =>
    obtain ⟨rfl, here, -⟩ := acts
    exact ⟨fits, here.trans (Displacement.toPoint_ofPoint fits).symm,
      fun stray => absurd stray Bool.false_ne_true, fun _ => Displacement.ofPoint_same fits⟩
  | damage amount =>
    obtain ⟨rfl, body⟩ := acts
    rw [astray, GameUnit.pos, body]
    exact ⟨h.fits, h.pos, h.idle, h.exact⟩
  | heal amount =>
    obtain ⟨rfl, body⟩ := acts
    rw [astray, GameUnit.pos, body]
    exact ⟨h.fits, h.pos, h.idle, h.exact⟩
  | tick =>
    rw [astray]
    rw [Op.Acts] at acts
    split at acts
    case isTrue idle =>
      obtain ⟨rfl, rfl⟩ := acts
      exact ⟨h.fits, h.pos, h.idle, h.exact⟩
    case isFalse awake =>
      obtain ⟨rfl, animated⟩ := acts
      have on_way : stray = false := Bool.eq_false_iff.mpr (mt h.idle awake)
      have pos : u'.pos = m.step.position := (Particle.of_animate animated).2
      rw [on_way, pos, Movement.target_step]
      exact ⟨h.fits, rfl, fun stray => absurd stray Bool.false_ne_true,
        Movement.onTarget_of_idle_step h.speed h.fits⟩

/-- A villager to begin with. -/
theorem stands_villager (id : EntityId) {pos : Point} (color : UInt32) (fits : pos.Fits) :
    (villager id pos color).Stands (.standing pos 2 .villagerStand .villagerWalk) false where
  walks := walks_mobile ..
  speed := rfl
  stand := rfl
  walk := rfl
  fits := fits
  pos := (Displacement.toPoint_ofPoint fits).symm
  idle stray := absurd stray Bool.false_ne_true
  exact _ := Displacement.ofPoint_same fits

/-- A villager that does not idle through a tick does not stay as it is. -/
theorem Stands.exists_tick_ne (h : u.Stands m stray) (awake : ¬ m.Idle u.pos) :
    ∃ u' moved, u.tick = .ok (u', moved) ∧ u' ≠ u := by
  obtain ⟨body, animated, ticked⟩ := exists_tick_of_not_idle h.walks awake
  obtain ⟨-, stand, walk⟩ := m.outfit_step
  have several : 1 < m.step.gait.count.toNat := by
    rw [Movement.gait, stand, walk, h.stand, h.walk]
    split <;> decide
  refine ⟨_, _, ticked, fun same => ?_⟩
  exact Particle.animate_ne several animated (q := u.body) rfl rfl (congrArg GameUnit.body same)

/-- **Where a villager stalls.**  After every run of a villager, whose points have coordinates of at
most 24 bits, there is a tick.  It leaves the villager unchanged exactly if the villager stands on
its target and does not move.  Then its exact position rounds to the target; and it is the target,
unless the last order was for the point that the villager stood on already, next to its exact
position. -/
theorem stall_of_run (id : EntityId) {pos : Point} (color : UInt32) {ops : List Op}
    (start : pos.Fits) (fits : ∀ op ∈ ops, op.Fits) :
    ∃ u m stray u' moved,
      run ops (villager id pos color) = .ok u ∧ u.movement? = some m ∧
      remember astray ops (villager id pos color) false = .ok stray ∧
      u.tick = .ok (u', moved) ∧
      (u' = u ↔ m.target = u.pos ∧ m.isMoving = false) ∧
      (u' = u → m.position = m.target ∧ (m.onTarget = true ↔ stray = false)) := by
  have step (op) (mem : op ∈ ops) (u : GameUnit) (stray : Bool) (h : ∃ m, u.Stands m stray) :
      ∃ u', op.perform u = .ok u' ∧ ∃ m', u'.Stands m' (astray op u u' stray) := by
    obtain ⟨m, h⟩ := h
    obtain ⟨u', m', performed, h'⟩ := h.exists_perform op (fits op mem)
    exact ⟨u', performed, m', h'⟩
  obtain ⟨u, stray, ran, recalled, m, stands⟩ :=
    exists_remember step ⟨_, stands_villager id color start⟩
  by_cases idle : m.Idle u.pos
  case pos =>
    refine ⟨u, m, stray, u, false, ran, stands.walks.movement?, recalled,
      tick_of_idle stands.walks.kind idle, iff_of_true rfl idle, fun _ => ?_⟩
    rw [stands.exact idle, Bool.not_eq_true']
    exact ⟨stands.pos.symm.trans idle.1.symm, Iff.rfl⟩
  case neg =>
    obtain ⟨u', moved, ticked, changed⟩ := stands.exists_tick_ne idle
    exact ⟨u, m, stray, u', moved, ran, stands.walks.movement?, recalled, ticked,
      iff_of_false changed idle, fun same => absurd same changed⟩

/-- Whether a unit is at its target by its position, whether it moves, and whether it is there
exactly. -/
def halt? (u : GameUnit) : Option (Bool × Bool × Bool) :=
  u.movement?.map fun m => (decide (m.target = u.pos), m.isMoving, m.onTarget)

theorem of_halt?_eq {here moving exactly : Bool} (h : u.halt? = some (here, moving, exactly)) :
    ∃ m, u.movement? = some m ∧ decide (m.target = u.pos) = here ∧ m.isMoving = moving ∧
      m.onTarget = exactly := by
  obtain ⟨m, walk, seen⟩ := Option.map_eq_some_iff.mp h
  obtain ⟨here, seen⟩ := Prod.mk.inj seen
  exact ⟨m, walk, here, Prod.mk.inj seen⟩

/-- A villager walks to a point along a diagonal. -/
def errand : List Op := [.order ⟨4, 4⟩ .origin, .tick, .tick, .tick]

/-- It ends on the point, and the next tick leaves it as it is. -/
theorem stall_of_errand : ∃ u m moved, run errand (villager ⟨1⟩ ⟨0, 0⟩ 1) = .ok u ∧
    u.movement? = some m ∧ u.tick = .ok (u, moved) ∧ m.onTarget = true := by
  have start : (⟨0, 0⟩ : Point).Fits := by decide
  have fits : ∀ op ∈ errand, op.Fits := by decide
  obtain ⟨u, m, stray, u', moved, ran, walk, recalled, ticked, unchanged, exact⟩ :=
    stall_of_run ⟨1⟩ 1 start fits
  have noted : remember astray errand (villager ⟨1⟩ ⟨0, 0⟩ 1) false = .ok false := by
    decide +kernel
  have seen : (run errand (villager ⟨1⟩ ⟨0, 0⟩ 1)).map halt? = .ok (some (true, false, true)) := by
    decide +kernel
  rw [ran] at seen
  obtain ⟨m', walk', here, still, -⟩ := of_halt?_eq (Except.ok.inj seen)
  obtain rfl := Option.some.inj (walk.symm.trans walk')
  obtain rfl := unchanged.mpr ⟨of_decide_eq_true here, still⟩
  have straight := Except.ok.inj (recalled.symm.trans noted)
  exact ⟨u', m, moved, ran, walk, ticked, (exact rfl).2.mpr straight⟩

/-- A villager takes one step along a diagonal and is ordered to the point that it has come to. -/
def halted : List Op := [.order ⟨10, 10⟩ .origin, .tick, .order ⟨1, 1⟩ .origin]

/-- It stands on its target by its position, and the next tick leaves it as it is; but its exact
position is another one. -/
theorem halted_villager_stalls : ∃ u m, run halted (villager ⟨1⟩ ⟨0, 0⟩ 1) = .ok u ∧
    u.movement? = some m ∧ u.tick = .ok (u, false) ∧ m.onTarget = false := by
  have seen : (run halted (villager ⟨1⟩ ⟨0, 0⟩ 1)).map halt? = .ok (some (true, false, false)) := by
    decide +kernel
  obtain ⟨u, ran, seen⟩ := Checked.map_eq_ok_iff.mp seen
  obtain ⟨m, walk, here, still, beside⟩ := of_halt?_eq seen
  have kind : u.kind = .mobile m := by
    unfold GameUnit.movement? at walk
    split at walk
    case h_1 m' kind => rw [kind, Option.some.inj walk]
    case h_2 => cases walk
  exact ⟨u, m, ran, walk, tick_of_idle kind ⟨of_decide_eq_true here, still⟩, beside⟩

end GameUnit

end Skirmish
