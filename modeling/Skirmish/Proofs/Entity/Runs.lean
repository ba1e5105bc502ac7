import Skirmish.Proofs.Entity.Frames

/-!
# Runs of a mobile unit

A mobile unit is ordered about, put onto points, hurt and healed, and it ticks.  None of that is a
fault.  What an operation does to the walk is said once, for all of them, and a run is followed
together with a note that is kept on the way.

## Main definitions

* `GameUnit.Op`, `GameUnit.run` — what is done to a unit, and several operations in a row.
* `GameUnit.remember` — a note that is kept along a run.
* `Movement.Idle` — a walk that a tick leaves alone.
* `GameUnit.Walks` — a mobile unit with its walk.
* `GameUnit.Op.Acts` — what an operation does to a mobile unit.

## Main results

* `Walks.exists_perform` — every operation on a mobile unit has a result.
* `exists_remember` — what every operation keeps, a run keeps.
-/

namespace Skirmish

/-- A walk that a tick leaves alone: the unit stands on its target. -/
def Movement.Idle (m : Movement) (pos : Point) : Prop := m.target = pos ∧ m.isMoving = false

instance {m : Movement} {pos : Point} : Decidable (m.Idle pos) :=
  inferInstanceAs (Decidable (_ ∧ _))

/-- A step changes neither the speed nor the frame sets. -/
theorem Movement.outfit_step (m : Movement) :
    m.step.speed = m.speed ∧ m.step.stand = m.stand ∧ m.step.walk = m.walk := by
  unfold step
  split <;> exact ⟨rfl, rfl, rfl⟩

/-- A particle that shows the next frame stays where it is. -/
theorem Particle.of_animate {p p' : Particle} {frames : FrameSet}
    (h : p.animate frames = .ok p') : p'.frames = frames ∧ p'.pos = p.pos := by
  unfold animate at h
  split at h
  case isTrue shown =>
    obtain ⟨frame, -, done⟩ := Checked.bind_eq_ok_iff.mp h
    obtain rfl := Except.ok.inj done
    exact ⟨shown, rfl⟩
  case isFalse =>
    obtain rfl := Except.ok.inj h
    exact ⟨rfl, rfl⟩

namespace GameUnit

/-- A unit after a harvest; without a stock it stays as it is. -/
def harvested (request : UInt32) (u : GameUnit) : GameUnit :=
  ((u.harvest? request).map Prod.snd).getD u

/-- A harvest leaves a feature alone that the stock does not change. -/
theorem eq_harvested {β : Type} {f : GameUnit → β} {request : UInt32} (u : GameUnit)
    (same : ∀ {taken u'}, u.harvest? request = some (taken, u') → f u' = f u) :
    f (u.harvested request) = f u := by
  unfold harvested
  cases given : u.harvest? request with
  | none => rfl
  | some r => exact same given

/-- What is done to a unit. -/
inductive Op where
  | order (target shift : Point)
  | place (pos : Point)
  | damage (amount : UInt32)
  | heal (amount : UInt32)
  | tick

/-- The unit after an operation; a unit that cannot walk ignores orders. -/
def Op.perform : Op → GameUnit → Except Fault GameUnit
  | order target shift, u => .ok ((u.order? target shift).getD u)
  | place pos, u => .ok (u.place pos)
  | damage amount, u => .ok (u.damage amount)
  | heal amount, u => .ok (u.heal amount)
  | tick, u => u.tick.map Prod.fst

/-- The unit after some operations. -/
def run (ops : List Op) (u : GameUnit) : Except Fault GameUnit :=
  ops.foldlM (fun u op => op.perform u) u

/-- A note that is kept along a run: each operation changes it, knowing the unit before and
after. -/
def remember {α : Type} (note : Op → GameUnit → GameUnit → α → α) :
    List Op → GameUnit → α → Except Fault α
  | [], _, a => .ok a
  | op :: ops, u, a => do
    let u' ← op.perform u
    remember note ops u' (note op u u' a)

/-- What every operation keeps of a unit and a note, a run keeps. -/
theorem exists_remember {α : Type} {note : Op → GameUnit → GameUnit → α → α}
    {I : GameUnit → α → Prop} {ops : List Op}
    (step : ∀ op ∈ ops, ∀ u a, I u a → ∃ u', op.perform u = .ok u' ∧ I u' (note op u u' a))
    {u : GameUnit} {a : α} (h : I u a) :
    ∃ u' a', run ops u = .ok u' ∧ remember note ops u a = .ok a' ∧ I u' a' := by
  induction ops generalizing u a with
  | nil => exact ⟨u, a, rfl, rfl, h⟩
  | cons op ops ih =>
    obtain ⟨u₁, performed, h₁⟩ := step op List.mem_cons_self u a h
    obtain ⟨u', a', ran, recalled, h'⟩ :=
      ih (fun op mem => step op (List.mem_cons_of_mem _ mem)) h₁
    refine ⟨u', a', ?_, ?_, h'⟩
    · rw [run, List.foldlM_cons, performed, Checked.ok_bind]
      exact ran
    · rw [remember, performed, Checked.ok_bind, recalled]

/-! ### One operation -/

variable {u u' : GameUnit} {m : Movement}

/-- A mobile unit with its walk, that shows a frame with a successor. -/
structure Walks (u : GameUnit) (m : Movement) : Prop where
  kind : u.kind = .mobile m
  next : u.HasNextFrame

/-- What an operation does to a mobile unit and its walk. -/
def Op.Acts (u : GameUnit) (m : Movement) (u' : GameUnit) (m' : Movement) : Op → Prop
  | order target _ => m' = m.retarget target ∧ u'.pos = u.pos ∧ u'.body.frames = u.body.frames
  | place pos => m' = (m.place pos).retarget pos ∧ u'.pos = pos ∧ u'.body.frames = u.body.frames
  | damage _ => m' = m ∧ u'.body = u.body
  | heal _ => m' = m ∧ u'.body = u.body
  | tick =>
    if m.Idle u.pos then u' = u ∧ m' = m
    else m' = m.step ∧ { u.body with pos := m.step.position }.animate m.step.gait = .ok u'.body

theorem tick_of_idle (kind : u.kind = .mobile m) (idle : m.Idle u.pos) :
    u.tick = .ok (u, false) := by
  simp only [GameUnit.tick, kind]
  exact if_pos ⟨idle.1, by rw [idle.2]; rfl⟩

/-- A tick of a unit that has somewhere to go. -/
theorem exists_tick_of_not_idle (h : u.Walks m) (awake : ¬ m.Idle u.pos) :
    ∃ body, { u.body with pos := m.step.position }.animate m.step.gait = .ok body ∧
      u.tick = .ok ({ u with body, kind := .mobile m.step }, decide (m.step.position ≠ u.pos)) := by
  have going : ¬ (m.target = u.pos ∧ !m.isMoving) := by
    rintro ⟨arrived, still⟩
    exact awake ⟨arrived, by simpa using still⟩
  have frame := h.next (by simp [isMobile, h.kind])
  obtain ⟨body, animated, -⟩ :=
    Particle.exists_animate (p := { u.body with pos := m.step.position }) m.step.gait frame
  refine ⟨body, animated, ?_⟩
  simp only [GameUnit.tick, h.kind]
  rw [if_neg going, animated, Checked.ok_bind]

/-- Every operation on a mobile unit has a result, and the unit stays mobile. -/
theorem Walks.exists_perform (h : u.Walks m) (op : Op) :
    ∃ u' m', op.perform u = .ok u' ∧ u'.Walks m' ∧ op.Acts u m u' m' := by
  cases op with
  | order target shift =>
    have ordered : u.order? target shift = some
        { u with body := { u.body with shift }, kind := .mobile (m.retarget target) } := by
      simp only [order?, h.kind]
    refine ⟨_, m.retarget target, ?_, ⟨rfl, hasNextFrame_order h.next ordered⟩, rfl, rfl, rfl⟩
    rw [Op.perform, ordered, Option.getD_some]
  | place pos =>
    have kind : (u.place pos).kind = .mobile ((m.place pos).retarget pos) := by
      simp only [GameUnit.place, h.kind]
    exact ⟨_, _, rfl, ⟨kind, hasNextFrame_place h.next pos⟩, rfl, rfl, rfl⟩
  | damage amount => exact ⟨_, m, rfl, ⟨h.kind, h.next⟩, rfl, rfl⟩
  | heal amount => exact ⟨_, m, rfl, ⟨h.kind, h.next⟩, rfl, rfl⟩
  | tick =>
    by_cases idle : m.Idle u.pos
    case pos =>
      refine ⟨u, m, ?_, h, ?_⟩
      · rw [Op.perform, tick_of_idle h.kind idle, Checked.map_ok]
      · rw [Op.Acts, if_pos idle]
        exact ⟨rfl, rfl⟩
    case neg =>
      obtain ⟨body, animated, ticked⟩ := exists_tick_of_not_idle h idle
      obtain ⟨u₁, moved, ticked', next⟩ := exists_tick h.next
      obtain ⟨rfl, -⟩ := Prod.mk.inj (Except.ok.inj (ticked.symm.trans ticked'))
      refine ⟨_, m.step, ?_, ⟨rfl, next⟩, ?_⟩
      · rw [Op.perform, ticked, Checked.map_ok]
      · rw [Op.Acts, if_neg idle]
        exact ⟨rfl, animated⟩

/-- The speed and the frame sets of a mobile unit are its own for good. -/
theorem Op.Acts.outfit {op : Op} {m' : Movement} (h : op.Acts u m u' m') :
    m'.speed = m.speed ∧ m'.stand = m.stand ∧ m'.walk = m.walk := by
  cases op with
  | order target shift =>
    obtain ⟨rfl, -⟩ := h
    exact ⟨rfl, rfl, rfl⟩
  | place pos =>
    obtain ⟨rfl, -⟩ := h
    exact ⟨rfl, rfl, rfl⟩
  | damage amount =>
    obtain ⟨rfl, -⟩ := h
    exact ⟨rfl, rfl, rfl⟩
  | heal amount =>
    obtain ⟨rfl, -⟩ := h
    exact ⟨rfl, rfl, rfl⟩
  | tick =>
    rw [Op.Acts] at h
    split at h
    case isTrue =>
      obtain ⟨-, rfl⟩ := h
      exact ⟨rfl, rfl, rfl⟩
    case isFalse =>
      obtain ⟨rfl, -⟩ := h
      exact m.outfit_step

/-- A mobile unit to begin with. -/
theorem walks_mobile (id : EntityId) (hp : UInt32) (pos : Point) (diameter : UInt32)
    (stand walk : FrameSet) (color : UInt32) (speed : Float32) :
    (mobile id hp pos diameter stand walk color speed).Walks
      (.standing pos speed stand walk) where
  kind := rfl
  next _ := by
    have first : (0 : UInt32).toNat + 1 < UInt32.size := by decide
    exact first

end GameUnit

end Skirmish
