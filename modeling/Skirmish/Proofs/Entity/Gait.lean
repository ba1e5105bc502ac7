import Mathlib.Data.List.Basic
import Skirmish.Proofs.Entity.Runs

/-!
# The frames shown while standing and walking

A tick that a unit does not idle through shows the frames of its gait.  Orders and placements stop a
unit, but what it shows is left to the next tick, and a unit that stands on its target by then idles
through it.  So a unit that is stopped on its way and has nowhere to go keeps on showing the frames
of walking, however often it ticks.

## Main definitions

* `GameUnit.gait?` — the frame set that suits what a unit does.
* `GameUnit.strode` — whether the last tick that a unit did not idle through left it walking.

## Main results

* `shows_of_run` — a unit shows what its last such tick has left.
* `gait_of_run` — when a tick leaves a unit with the frames of its gait.
* `stopped_villager_walks` — a villager that stands and shows the frames of walking.
-/

namespace Skirmish

namespace GameUnit

/-- The frame set that suits what a mobile unit does. -/
def gait? (u : GameUnit) : Option FrameSet := u.movement?.map Movement.gait

/-- Whether a tick leaves a unit alone. -/
def isIdle (u : GameUnit) : Bool := u.movement?.all fun m => decide (m.Idle u.pos)

/-- Whether the last tick of a unit has walked, and nothing has stopped it since. -/
def isWalking (u : GameUnit) : Bool := u.movement?.any Movement.isMoving

/-- Whether the last tick that a unit did not idle through left it walking, as a note along a
run. -/
def strode : Op → GameUnit → GameUnit → Bool → Bool
  | .tick, u, u', before => if u.isIdle then before else u'.isWalking
  | _, _, _, before => before

variable {u u' : GameUnit} {m m' : Movement} {op : Op}

namespace Walks

theorem movement? (h : u.Walks m) : u.movement? = some m := by
  rw [GameUnit.movement?, h.kind]

theorem gait? (h : u.Walks m) : u.gait? = some m.gait := by
  rw [GameUnit.gait?, h.movement?, Option.map_some]

theorem isIdle (h : u.Walks m) : u.isIdle = decide (m.Idle u.pos) := by
  rw [GameUnit.isIdle, h.movement?, Option.all_some]

theorem isWalking (h : u.Walks m) : u.isWalking = m.isMoving := by
  rw [GameUnit.isWalking, h.movement?, Option.any_some]

end Walks

/-- A mobile unit that shows what its last step has left. -/
structure Shows (stand walk : FrameSet) (u : GameUnit) (strode : Bool) : Prop where
  walks : ∃ m, u.Walks m ∧ m.stand = stand ∧ m.walk = walk
  shown : u.body.frames = if strode then walk else stand

variable {stand walk : FrameSet}

/-- One operation. -/
theorem Shows.exists_perform {before : Bool} (h : u.Shows stand walk before) (op : Op) :
    ∃ u', op.perform u = .ok u' ∧ u'.Shows stand walk (strode op u u' before) := by
  obtain ⟨⟨m, walks, rfl, rfl⟩, shown⟩ := h
  obtain ⟨u', m', performed, walks', acts⟩ := walks.exists_perform op
  obtain ⟨-, stand, walk⟩ := acts.outfit
  refine ⟨u', performed, ⟨m', walks', stand, walk⟩, ?_⟩
  cases op with
  | order target shift => exact acts.2.2.trans shown
  | place pos => exact acts.2.2.trans shown
  | damage amount => exact (congrArg Particle.frames acts.2).trans shown
  | heal amount => exact (congrArg Particle.frames acts.2).trans shown
  | tick =>
    rw [strode, walks.isIdle, walks'.isWalking]
    rw [Op.Acts] at acts
    split at acts
    case isTrue idle =>
      obtain ⟨rfl, -⟩ := acts
      rw [decide_eq_true idle, if_pos rfl]
      exact shown
    case isFalse awake =>
      rw [decide_eq_false awake, if_neg Bool.false_ne_true]
      rw [(Particle.of_animate acts.2).1, ← acts.1, Movement.gait, stand, walk]

/-- A mobile unit shows the frames of walking if the last tick that it did not idle through left it
walking, and the frames of standing if not. -/
theorem shows_of_run (id : EntityId) (hp : UInt32) (pos : Point) (diameter : UInt32)
    (stand walk : FrameSet) (color : UInt32) (speed : Float32) (ops : List Op) :
    ∃ u walked, run ops (mobile id hp pos diameter stand walk color speed) = .ok u ∧
      remember strode ops (mobile id hp pos diameter stand walk color speed) false = .ok walked ∧
      u.Shows stand walk walked :=
  exists_remember (fun op _ _ _ h => h.exists_perform op)
    ⟨⟨_, walks_mobile id hp pos diameter stand walk color speed, rfl, rfl⟩, rfl⟩

/-- **What is shown after a tick.**  After every run of a mobile unit there is a tick, and the unit
shows the frames of its gait afterwards, unless it idles through that tick and the last one that it
did not idle through left it walking. -/
theorem gait_of_run (id : EntityId) (hp : UInt32) (pos : Point) (diameter : UInt32)
    (stand walk : FrameSet) (color : UInt32) (speed : Float32) (ops : List Op) :
    ∃ u walked u' moved,
      run ops (mobile id hp pos diameter stand walk color speed) = .ok u ∧
      remember strode ops (mobile id hp pos diameter stand walk color speed) false = .ok walked ∧
      u.tick = .ok (u', moved) ∧
      (u'.gait? = some u'.body.frames ↔ u.isIdle = false ∨ walked = false ∨ stand = walk) := by
  obtain ⟨u, walked, ran, recalled, ⟨m, walks, rfl, rfl⟩, shown⟩ :=
    shows_of_run id hp pos diameter stand walk color speed ops
  by_cases idle : m.Idle u.pos
  case pos =>
    refine ⟨u, walked, u, false, ran, recalled, tick_of_idle walks.kind idle, ?_⟩
    have standing : m.gait = m.stand := by
      rw [Movement.gait, idle.2, if_neg Bool.false_ne_true]
    rw [walks.gait?, walks.isIdle, decide_eq_true idle, shown, standing, Option.some.injEq]
    cases walked <;> simp
  case neg =>
    obtain ⟨body, animated, ticked⟩ := exists_tick_of_not_idle walks idle
    refine ⟨u, walked, _, _, ran, recalled, ticked, ?_⟩
    rw [walks.isIdle, decide_eq_false idle, (Particle.of_animate animated).1]
    exact iff_of_true rfl (.inl rfl)

/-- A villager takes one step and is put back onto the place where it started. -/
def recalled : List Op := [.order ⟨10, 0⟩ .origin, .tick, .place ⟨0, 0⟩]

/-- It stands, and idles through the next tick; but it shows the frames of walking. -/
theorem stopped_villager_walks : ∃ u u' moved,
    run recalled (.villager ⟨1⟩ ⟨0, 0⟩ 1) = .ok u ∧ u.tick = .ok (u', moved) ∧
      u'.isWalking = false ∧ u'.gait? = some .villagerStand ∧
      u'.body.frames = .villagerWalk := by
  have shown : (run recalled (.villager ⟨1⟩ ⟨0, 0⟩ 1) >>= tick).map
      (fun r => (r.1.isWalking, r.1.gait?, r.1.body.frames))
        = .ok (false, some .villagerStand, .villagerWalk) := by
    decide +kernel
  obtain ⟨⟨u', moved⟩, played, shown⟩ := Checked.map_eq_ok_iff.mp shown
  obtain ⟨u, ran, ticked⟩ := Checked.bind_eq_ok_iff.mp played
  obtain ⟨still, shown⟩ := Prod.mk.inj shown
  obtain ⟨gait, frames⟩ := Prod.mk.inj shown
  exact ⟨u, u', moved, ran, ticked, still, gait, frames⟩

end GameUnit

end Skirmish
