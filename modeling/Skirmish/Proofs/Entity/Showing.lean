import Skirmish.Proofs.Entity.Runs

/-!
# Frames that can be shown

The frame that an entity shows is one of its frame set, or zero if the set is empty.  The first
frame of a set is, and so is the frame after another one; a unit that takes up another set starts
over, so no number that belongs to a longer set is left behind.  An index that is below a count has
a successor, so asking for the next frame is never a fault.

## Main definitions

* `FrameSet.Admits` — an index that can be shown of a set.
* `Particle.Displayable`, `GameUnit.Displayable` — an entity that shows such indices only.
* `Particle.Deed`, `GameUnit.Deed` — all that is done to an entity by itself; `Particle.act` and
  `GameUnit.act` do several such things in a row.

## Main results

* `FrameSet.Admits.exists_next` — the next frame exists, and can be shown.
* `Particle.Displayable.exists_act`, `GameUnit.Displayable.exists_act` — whatever is done to an
  entity has a result, which shows such indices only.
-/

namespace Skirmish

namespace FrameSet

variable {s : FrameSet} {index : UInt32}

/-- An index that can be shown of a set: a frame that the set has, or zero if it is empty. -/
def Admits (s : FrameSet) (index : UInt32) : Prop := index < s.count ∨ s.count = 0 ∧ index = 0

instance : Decidable (s.Admits index) :=
  inferInstanceAs (Decidable (_ ∨ _))

theorem admits_zero (s : FrameSet) : s.Admits 0 := by
  by_cases empty : s.count = 0
  · exact .inr ⟨empty, rfl⟩
  · exact .inl (UInt32.pos_iff_ne_zero.mpr empty)

/-- An index that can be shown is not the last number that there is. -/
theorem Admits.succ_lt (h : s.Admits index) : index.toNat + 1 < UInt32.size := by
  have small : s.count.toNat < UInt32.size := s.count.toNat_lt
  rcases h with below | ⟨-, rfl⟩
  · rw [UInt32.lt_iff_toNat_lt] at below
    omega
  · decide

/-- The next frame exists, and can be shown. -/
theorem Admits.exists_next (h : s.Admits index) :
    ∃ next, s.next index = .ok next ∧ s.Admits next := by
  unfold FrameSet.next
  by_cases empty : s.count = 0
  · exact ⟨0, if_pos empty, .inr ⟨empty, rfl⟩⟩
  · rw [if_neg empty, if_pos h.succ_lt]
    refine ⟨(index + 1) % s.count, rfl, .inl ?_⟩
    exact UInt32.mod_lt _ (UInt32.pos_iff_ne_zero.mpr empty)

end FrameSet

/-! ### Particles -/

namespace Particle

variable {p : Particle}

/-- A particle shows a frame of its set, or zero if the set is empty. -/
def Displayable (p : Particle) : Prop := p.frames.Admits p.frame

instance : Decidable p.Displayable :=
  inferInstanceAs (Decidable (FrameSet.Admits _ _))

theorem displayable_create (id : EntityId) (pos : Point) (footprint : Footprint)
    (frames : FrameSet) (color : UInt32) (shift : Point) :
    (create id pos footprint frames color shift).Displayable :=
  frames.admits_zero

theorem Displayable.exists_advance (h : p.Displayable) :
    ∃ p', p.advance = .ok p' ∧ p'.Displayable := by
  obtain ⟨frame, next, admits⟩ := FrameSet.Admits.exists_next h
  exact ⟨{ p with frame }, by rw [advance, next, Checked.ok_bind], admits⟩

/-- Another set is shown from its first frame on. -/
theorem Displayable.exists_animate (h : p.Displayable) (frames : FrameSet) :
    ∃ p', p.animate frames = .ok p' ∧ p'.Displayable := by
  unfold animate
  split
  case isTrue => exact h.exists_advance
  case isFalse => exact ⟨{ p with frames, frame := 0 }, rfl, frames.admits_zero⟩

/-- What is done to a particle by itself. -/
inductive Deed where
  | place (pos : Point)
  | project (v : Viewport)
  | advance

def Deed.perform : Deed → Particle → Except Fault Particle
  | place pos, p => .ok { p with pos }
  | project v, p => .ok (p.project v)
  | advance, p => p.advance

/-- A particle after such things in a row. -/
def act (deeds : List Deed) (p : Particle) : Except Fault Particle :=
  deeds.foldlM (fun p deed => deed.perform p) p

theorem Displayable.exists_act (h : p.Displayable) (deeds : List Deed) :
    ∃ p', act deeds p = .ok p' ∧ p'.Displayable := by
  refine Checked.exists_foldlM (P := Displayable) (fun p deed _ h => ?_) h
  cases deed with
  | place pos => exact ⟨_, rfl, h⟩
  | project v => exact ⟨_, rfl, h⟩
  | advance => exact h.exists_advance

end Particle

/-! ### Units -/

namespace GameUnit

variable {u u' : GameUnit}

/-- The body of a unit, and the overlay if it is a building, show frames of their sets, or zero if
the set is empty. -/
structure Displayable (u : GameUnit) : Prop where
  body : u.body.Displayable
  overlay : ∀ o, u.kind = .building o → o.frames.Admits o.frame

/-- A unit that is no building shows its body only. -/
theorem Displayable.of_body (body : u.body.Displayable) (plain : ∀ o, u.kind ≠ .building o) :
    u.Displayable :=
  ⟨body, fun o kind => absurd kind (plain o)⟩

theorem Displayable.hasNextFrame (h : u.Displayable) : u.HasNextFrame :=
  fun _ => FrameSet.Admits.succ_lt h.body

theorem Displayable.damage (h : u.Displayable) (amount : UInt32) : (u.damage amount).Displayable :=
  ⟨h.body, h.overlay⟩

theorem Displayable.heal (h : u.Displayable) (amount : UInt32) : (u.heal amount).Displayable :=
  ⟨h.body, h.overlay⟩

theorem Displayable.project (h : u.Displayable) (v : Viewport) : (u.project v).Displayable :=
  ⟨h.body, h.overlay⟩

theorem Displayable.place (h : u.Displayable) (pos : Point) : (u.place pos).Displayable := by
  refine ⟨h.body, fun o kind => ?_⟩
  simp only [GameUnit.place] at kind
  split at kind
  case h_1 => cases kind
  case h_2 => exact h.overlay o kind

theorem Displayable.order {target shift : Point} (h : u.Displayable)
    (ordered : u.order? target shift = some u') : u'.Displayable := by
  unfold order? at ordered
  split at ordered
  case h_1 m kind =>
    obtain rfl := Option.some.inj ordered
    exact .of_body h.body nofun
  case h_2 => cases ordered

theorem Displayable.harvested (h : u.Displayable) (request : UInt32) :
    (u.harvested request).Displayable := by
  unfold GameUnit.harvested harvest?
  split
  case h_1 => exact .of_body h.body nofun
  case h_2 => exact h

/-- A tick shows the next frame of the gait, or the first one of the other gait. -/
theorem Displayable.exists_tick (h : u.Displayable) :
    ∃ u' moved, u.tick = .ok (u', moved) ∧ u'.Displayable := by
  unfold GameUnit.tick
  split
  case h_1 m kind =>
    split
    case isTrue => exact ⟨u, false, rfl, h⟩
    case isFalse =>
      -- the unit is put onto its new place before it shows its gait
      have placed : Particle.Displayable { u.body with pos := m.step.position } := h.body
      obtain ⟨body, animated, shown⟩ := placed.exists_animate m.step.gait
      dsimp only
      rw [animated, Checked.ok_bind]
      exact ⟨_, _, rfl, .of_body shown nofun⟩
  case h_2 => exact ⟨u, false, rfl, h⟩

theorem Displayable.exists_advanceOverlay (h : u.Displayable) :
    ∃ u' shown, u.advanceOverlay = .ok (u', shown) ∧ u'.Displayable := by
  unfold GameUnit.advanceOverlay
  split
  case h_1 o kind =>
    obtain ⟨frame, next, admits⟩ := (h.overlay o kind).exists_next
    rw [Overlay.advance, next, Checked.ok_bind, Checked.ok_bind]
    refine ⟨_, _, rfl, h.body, fun o' kind' => ?_⟩
    obtain rfl := UnitKind.building.inj kind'
    exact admits
  case h_2 => exact ⟨u, false, rfl, h⟩

/-- What is done to a unit by itself. -/
inductive Deed where
  | ordinary (op : Op)
  | harvest (request : UInt32)
  | project (v : Viewport)
  | advance
  | advanceOverlay

def Deed.perform : Deed → GameUnit → Except Fault GameUnit
  | ordinary op, u => op.perform u
  | harvest request, u => .ok (u.harvested request)
  | project v, u => .ok (u.project v)
  | advance, u => u.body.advance.map fun body => { u with body }
  | advanceOverlay, u => u.advanceOverlay.map Prod.fst

/-- A unit after such things in a row. -/
def act (deeds : List Deed) (u : GameUnit) : Except Fault GameUnit :=
  deeds.foldlM (fun u deed => deed.perform u) u

theorem Displayable.exists_perform (h : u.Displayable) (deed : Deed) :
    ∃ u', deed.perform u = .ok u' ∧ u'.Displayable := by
  cases deed with
  | ordinary op =>
    cases op with
    | order target shift =>
      refine ⟨_, rfl, ?_⟩
      cases ordered : u.order? target shift with
      | none => exact h
      | some u' => exact h.order ordered
    | place pos => exact ⟨_, rfl, h.place pos⟩
    | damage amount => exact ⟨_, rfl, h.damage amount⟩
    | heal amount => exact ⟨_, rfl, h.heal amount⟩
    | tick =>
      obtain ⟨u', moved, ticked, shown⟩ := h.exists_tick
      exact ⟨u', by rw [Deed.perform, Op.perform, ticked, Checked.map_ok], shown⟩
  | harvest request => exact ⟨_, rfl, h.harvested request⟩
  | project v => exact ⟨_, rfl, h.project v⟩
  | advance =>
    obtain ⟨body, advanced, shown⟩ := h.body.exists_advance
    exact ⟨{ u with body }, by rw [Deed.perform, advanced, Checked.map_ok], shown, h.overlay⟩
  | advanceOverlay =>
    obtain ⟨u', has, advanced, shown⟩ := h.exists_advanceOverlay
    exact ⟨u', by rw [Deed.perform, advanced, Checked.map_ok], shown⟩

theorem Displayable.exists_act (h : u.Displayable) (deeds : List Deed) :
    ∃ u', act deeds u = .ok u' ∧ u'.Displayable :=
  Checked.exists_foldlM (P := Displayable) (fun _ deed _ h => h.exists_perform deed) h

end GameUnit

end Skirmish
