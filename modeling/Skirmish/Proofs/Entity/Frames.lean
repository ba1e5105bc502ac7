import Skirmish.Entity.GameUnit
import Skirmish.Proofs.Checked

/-!
# The frames that a unit shows

A tick asks for the frame after the one that is shown.  That is a fault for the last number that
there is, and only for that one; the numbers that a tick brings are smaller.

## Main definitions

* `GameUnit.HasNextFrame` — the frame that a unit shows has a successor.

## Main results

* `FrameSet.exists_next` — the next frame of a set has a successor again.
* `FrameSet.next_ne`, `Particle.animate_ne` — a set of several frames does not stand still.
* `GameUnit.exists_tick` — a unit whose frame has a successor has a tick.
* `GameUnit.of_tick_eq_error` — only the last frame number has none.
-/

namespace Skirmish

/-- The next frame of a set exists, and it has a successor again. -/
theorem FrameSet.exists_next (s : FrameSet) {index : UInt32}
    (h : index.toNat + 1 < UInt32.size) :
    ∃ next, s.next index = .ok next ∧ next.toNat + 1 < UInt32.size := by
  unfold FrameSet.next
  split
  case isTrue =>
    refine ⟨0, rfl, ?_⟩
    decide
  case isFalse nonempty =>
    refine ⟨(index + 1) % s.count, rfl, ?_⟩
    have positive : 0 < s.count.toNat := by
      rw [Nat.pos_iff_ne_zero]
      exact fun zero => nonempty (UInt32.toNat_inj.mp zero)
    have below : (index + 1).toNat % s.count.toNat < s.count.toNat := Nat.mod_lt _ positive
    have small : s.count.toNat < UInt32.size := s.count.toNat_lt
    rw [UInt32.toNat_mod]
    omega

theorem Particle.exists_animate {p : Particle} (frames : FrameSet)
    (h : p.frame.toNat + 1 < UInt32.size) :
    ∃ p', p.animate frames = .ok p' ∧ p'.frame.toNat + 1 < UInt32.size := by
  unfold animate
  split
  case isTrue =>
    obtain ⟨frame, hframe, next⟩ := p.frames.exists_next h
    refine ⟨{ p with frame }, ?_, next⟩
    rw [advance, hframe, Checked.ok_bind]
  case isFalse =>
    have first : (0 : UInt32).toNat + 1 < UInt32.size := by decide
    exact ⟨{ p with frames, frame := 0 }, rfl, first⟩

/-- The frame after a frame is another one, if the set has several. -/
theorem FrameSet.next_ne {s : FrameSet} (several : 1 < s.count.toNat) {index next : UInt32}
    (h : s.next index = .ok next) : next ≠ index := by
  rintro rfl
  unfold FrameSet.next at h
  split at h
  case isTrue empty =>
    rw [empty] at several
    cases several
  case isFalse =>
    split at h
    case isTrue below =>
      have wrapped : (next.toNat + 1) % s.count.toNat = next.toNat := by
        have sum : (next + 1).toNat = next.toNat + 1 := by
          rw [UInt32.toNat_add]
          exact Nat.mod_eq_of_lt below
        rw [← sum, ← UInt32.toNat_mod]
        exact congrArg UInt32.toNat (Except.ok.inj h)
      have inside : next.toNat < s.count.toNat := by
        rw [← wrapped]
        exact Nat.mod_lt _ (by omega)
      obtain last | inner := Nat.eq_or_lt_of_le (Nat.succ_le_of_lt inside)
      · rw [← last, Nat.succ_eq_add_one, Nat.mod_self] at wrapped
        omega
      · rw [Nat.mod_eq_of_lt inner] at wrapped
        omega
    case isFalse => cases h

/-- A particle that shows a set of several frames does not stay as it is. -/
theorem Particle.animate_ne {p p' : Particle} {frames : FrameSet}
    (several : 1 < frames.count.toNat) (h : p.animate frames = .ok p') {q : Particle}
    (shown : q.frames = p.frames) (frame : q.frame = p.frame) : p' ≠ q := by
  unfold animate at h
  split at h
  case isTrue same =>
    obtain ⟨next, advanced, done⟩ := Checked.bind_eq_ok_iff.mp h
    obtain rfl := Except.ok.inj done
    rw [← same] at several
    rintro rfl
    exact FrameSet.next_ne several advanced frame
  case isFalse other =>
    obtain rfl := Except.ok.inj h
    rintro rfl
    exact other shown.symm

namespace GameUnit

variable {u u' : GameUnit}

/-- The number of the frame that is shown has a successor, if a tick could ask for it. -/
def HasNextFrame (u : GameUnit) : Prop := u.isMobile → u.body.frame.toNat + 1 < UInt32.size

theorem HasNextFrame.congr (h : u.HasNextFrame) (mobile : u'.isMobile = u.isMobile)
    (frame : u'.body.frame = u.body.frame) : u'.HasNextFrame := by
  unfold HasNextFrame
  rw [mobile, frame]
  exact h

theorem hasNextFrame_damage (h : u.HasNextFrame) (amount : UInt32) :
    (u.damage amount).HasNextFrame := h

theorem hasNextFrame_place (h : u.HasNextFrame) (pos : Point) : (u.place pos).HasNextFrame := by
  refine h.congr ?_ rfl
  cases kind : u.kind <;> simp [place, isMobile, kind]

theorem hasNextFrame_settle (h : u.HasNextFrame) (pos : Point) : (u.settle pos).HasNextFrame := by
  unfold settle
  split
  case isTrue => exact h
  case isFalse => exact hasNextFrame_place h pos

theorem hasNextFrame_order (h : u.HasNextFrame) {target shift : Point}
    (ordered : u.order? target shift = some u') : u'.HasNextFrame := by
  unfold order? at ordered
  split at ordered
  case h_1 m kind =>
    obtain rfl := Option.some.inj ordered
    refine h.congr ?_ rfl
    simp [isMobile, kind]
  case h_2 => cases ordered

theorem hasNextFrame_harvest {request taken : UInt32}
    (harvested : u.harvest? request = some (taken, u')) : u'.HasNextFrame := by
  unfold harvest? at harvested
  split at harvested
  case h_1 stock kind =>
    obtain ⟨-, rfl⟩ := Prod.mk.inj (Option.some.inj harvested)
    exact fun mobile => absurd mobile (by simp [isMobile])
  case h_2 => cases harvested

/-- A tick asks for no frame but the next one. -/
theorem exists_tick (h : u.HasNextFrame) :
    ∃ u' moved, u.tick = .ok (u', moved) ∧ u'.HasNextFrame := by
  unfold tick
  split
  case h_1 m kind =>
    have shown : u.body.frame.toNat + 1 < UInt32.size := h (by simp [isMobile, kind])
    split
    case isTrue => exact ⟨u, false, rfl, h⟩
    case isFalse =>
      obtain ⟨body, animated, next⟩ :=
        Particle.exists_animate (p := { u.body with pos := m.step.position }) m.step.gait shown
      dsimp only at animated ⊢
      rw [animated, Checked.ok_bind]
      exact ⟨_, _, rfl, fun _ => next⟩
  case h_2 => exact ⟨u, false, rfl, h⟩

/-- Only a unit that can walk and that shows the last frame number that there is has no tick. -/
theorem of_tick_eq_error {fault : Fault} (h : u.tick = .error fault) :
    u.isMobile ∧ u.body.frame.toNat + 1 = UInt32.size := by
  have last : ¬ u.HasNextFrame := by
    intro frame
    obtain ⟨u', moved, ticked, -⟩ := exists_tick frame
    rw [h] at ticked
    cases ticked
  obtain ⟨mobile, last⟩ := Classical.not_imp.mp last
  have below : u.body.frame.toNat < UInt32.size := u.body.frame.toNat_lt
  exact ⟨mobile, by omega⟩

end GameUnit

end Skirmish
