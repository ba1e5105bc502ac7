import Skirmish.Proofs.Checked
import Skirmish.Quadtree.Node

/-!
# Entries of changed entities

The index knows an entity by its entry: its id, its ground and whether it can walk.  Damage, orders
and projection leave the entry alone; teleporting and a tick change its box, and only its center.

## Main results

* `Footprint.one_le_half` — every entity takes some ground.
* `Entry.ofUnit_place`, `Entry.ofUnit_settle` — a unit put onto a point.
* `Entry.ofUnit_tick` — a unit after a tick.
* `Entry.ofUnit_order`, `Entry.ofUnit_harvest` — changes that the entry does not show.
-/

namespace Skirmish

/-- A footprint reaches at least one unit to each side of its center. -/
theorem Footprint.one_le_half (f : Footprint) : 1 ≤ f.half.x ∧ 1 ≤ f.half.y := by
  have measured := f.half_eq
  unfold measure at measured
  split at measured
  case isTrue =>
    simp only [Checked.bind_eq_ok_iff, Except.ok.injEq] at measured
    obtain ⟨width, -, height, -, half⟩ := measured
    rw [← half]
    exact ⟨one_le_halve width, one_le_halve height⟩
  case isFalse =>
    rw [← Except.ok.inj measured]
    exact ⟨one_le_halve _, one_le_halve _⟩

theorem Footprint.one_le_toInt_half (f : Footprint) :
    1 ≤ f.half.x.toInt ∧ 1 ≤ f.half.y.toInt := by
  have one : (1 : Int32).toInt = 1 := by decide
  obtain ⟨hx, hy⟩ := f.one_le_half
  rw [Int32.le_iff_toInt_le, one] at hx hy
  exact ⟨hx, hy⟩

namespace Entry

variable {u u' : GameUnit} {p p' : Particle}

@[simp] theorem ofUnit_project (v : Viewport) (u : GameUnit) :
    ofUnit (u.project v) = ofUnit u := rfl

@[simp] theorem ofUnit_damage (amount : UInt32) (u : GameUnit) :
    ofUnit (u.damage amount) = ofUnit u := rfl

@[simp] theorem ofParticle_project (v : Viewport) (p : Particle) :
    ofParticle (p.project v) = ofParticle p := rfl

theorem ofUnit_harvest {request taken : UInt32} (h : u.harvest? request = some (taken, u')) :
    ofUnit u' = ofUnit u := by
  unfold GameUnit.harvest? at h
  split at h
  case h_1 stock kind =>
    obtain ⟨-, rfl⟩ := Prod.mk.inj (Option.some.inj h)
    simp [ofUnit, GameUnit.isMobile, kind, GameUnit.id, GameUnit.bounds]
  case h_2 => cases h

theorem ofUnit_order {target shift : Point} (h : u.order? target shift = some u') :
    ofUnit u' = ofUnit u := by
  unfold GameUnit.order? at h
  split at h
  case h_1 m kind =>
    obtain rfl := Option.some.inj h
    simp [ofUnit, GameUnit.isMobile, kind, GameUnit.id, GameUnit.bounds, Particle.bounds]
  case h_2 => cases h

/-! ### Another position -/

theorem ofParticle_place (p : Particle) (pos : Point) :
    ofParticle { p with pos } = { ofParticle p with box := p.bounds.moveTo pos } := rfl

theorem ofUnit_place (u : GameUnit) (pos : Point) :
    ofUnit (u.place pos) = { ofUnit u with box := u.bounds.moveTo pos } := by
  have mobile : (u.place pos).isMobile = u.isMobile := by
    cases kind : u.kind <;> simp [GameUnit.place, GameUnit.isMobile, kind]
  rw [ofUnit, mobile]
  rfl

theorem ofUnit_settle (u : GameUnit) (pos : Point) :
    ofUnit (u.settle pos) = { ofUnit u with box := u.bounds.moveTo pos } := by
  unfold GameUnit.settle
  split
  case isTrue here => rw [here]; rfl
  case isFalse => exact ofUnit_place u pos

/-! ### Ticks -/

theorem ofParticle_animate {frames : FrameSet} (h : p.animate frames = .ok p') :
    ofParticle p' = ofParticle p := by
  unfold Particle.animate at h
  split at h
  case isTrue =>
    simp only [Particle.advance, Checked.bind_eq_ok_iff, Except.ok.injEq] at h
    obtain ⟨frame, -, rfl⟩ := h
    rfl
  case isFalse =>
    obtain rfl := Except.ok.inj h
    rfl

/-- A tick moves the box of a unit along, and says so. -/
theorem ofUnit_tick {moved : Bool} (h : u.tick = .ok (u', moved)) :
    ofUnit u' = { ofUnit u with box := u.bounds.moveTo u'.pos } ∧
      (moved = false → u'.pos = u.pos) := by
  have still : ofUnit u = { ofUnit u with box := u.bounds.moveTo u.pos } := rfl
  unfold GameUnit.tick at h
  split at h
  case h_1 m kind =>
    split at h
    case isTrue =>
      obtain ⟨rfl, -⟩ := Prod.mk.inj (Except.ok.inj h)
      exact ⟨still, fun _ => rfl⟩
    case isFalse =>
      simp only [Checked.bind_eq_ok_iff, Except.ok.injEq, Prod.mk.injEq] at h
      obtain ⟨body, animated, rfl, rfl⟩ := h
      have shown := ofParticle_animate animated
      simp only [ofParticle, Entry.mk.injEq, and_true] at shown
      obtain ⟨hid, hbox⟩ := shown
      have hpos : body.pos = m.step.position := congrArg Box.center hbox
      refine ⟨?_, fun same => ?_⟩
      · simp only [ofUnit, GameUnit.id, GameUnit.bounds, GameUnit.isMobile, GameUnit.pos, kind, hid,
          hbox, hpos]
        rfl
      · exact hpos.trans (Decidable.not_not.mp (of_decide_eq_false same))
  case h_2 =>
    obtain ⟨rfl, -⟩ := Prod.mk.inj (Except.ok.inj h)
    exact ⟨still, fun _ => rfl⟩

end Entry

end Skirmish
