import Skirmish.Proofs.Entity.Frames
import Skirmish.Proofs.World.Culling
import Skirmish.Proofs.World.Selection

/-!
# Operations without faults

In a world whose roster and index are in step, no operation on the entities that are there has a
fault: what is owned is no larger than the map, so it can be clamped, and the index finds and files
it.  A tick has a fault only if a unit that can walk shows a frame whose number has no successor.

None of these operations brings an entity into the world.

## Main definitions

* `Roster.Steady` — the frames that owned units show have successors.
* `Roster.Continues` — a roster without new entities.

## Main results

* `InStep.exists_clamp` — an owned entity can be clamped wherever it is put.
* `InStep.exists_relocate`, `InStep.exists_selectAt`, `InStep.exists_tick` and the others — the
  operations give results.
-/

namespace Skirmish

namespace GameUnit

variable {u u' : GameUnit}

theorem hasNextFrame_turn {map : Map} {moved : Bool} (h : u.HasNextFrame)
    (turn : u.turn map = .ok (u', moved)) : u'.HasNextFrame := by
  obtain ⟨u₁, stepped, result⟩ := of_turn turn
  obtain ⟨u₂, moved', stepped', h₁⟩ := exists_tick h
  obtain ⟨rfl, rfl⟩ := Prod.mk.inj (Except.ok.inj (stepped.symm.trans stepped'))
  rcases result with ⟨-, rfl⟩ | ⟨-, fitted, -, rfl⟩
  · exact h₁
  · exact hasNextFrame_settle h₁ fitted.center

end GameUnit

/-! ### Rosters -/

namespace Roster

variable {r r' : Roster} {u u' : GameUnit} {p p' : Particle} {id : EntityId}

/-- The frames that owned units show have successors. -/
def Steady (r : Roster) : Prop := ∀ {id u}, r.unit? id = some u → u.HasNextFrame

/-- A roster that has gone on from another one without a new entity. -/
structure Continues (r r' : Roster) : Prop where
  next : r'.next = r.next
  unit : ∀ {id u'}, r'.unit? id = some u' →
    ∃ u, r.unit? id = some u ∧ (u.HasNextFrame → u'.HasNextFrame)
  particle : ∀ {id p'}, r'.particle? id = some p' → ∃ p, r.particle? id = some p

namespace Continues

theorem refl (r : Roster) : r.Continues r where
  next := rfl
  unit found := ⟨_, found, fun h => h⟩
  particle found := ⟨_, found⟩

theorem trans {r₁ : Roster} (h₁ : r.Continues r₁) (h : r₁.Continues r') : r.Continues r' where
  next := h.next.trans h₁.next
  unit found := by
    obtain ⟨u₁, found₁, keeps⟩ := h.unit found
    obtain ⟨u, found, keeps₁⟩ := h₁.unit found₁
    exact ⟨u, found, keeps ∘ keeps₁⟩
  particle found := by
    obtain ⟨p₁, found₁⟩ := h.particle found
    exact h₁.particle found₁

theorem steady (h : r.Continues r') (steady : r.Steady) : r'.Steady := by
  intro id u' found
  obtain ⟨u, found, keeps⟩ := h.unit found
  exact keeps (steady found)

/-- An owned unit changes. -/
theorem setUnit (found : r.unit? u'.id = some u) (keeps : u.HasNextFrame → u'.HasNextFrame) :
    r.Continues (r.setUnit u') where
  next := rfl
  unit {id u₁} found₁ := by
    rw [unit?_setUnit] at found₁
    split at found₁
    case isTrue eq =>
      obtain rfl := Option.some.inj found₁
      exact ⟨u, eq ▸ found, keeps⟩
    case isFalse => exact ⟨u₁, found₁, fun h => h⟩
  particle found := ⟨_, found⟩

/-- An owned particle changes. -/
theorem setParticle (found : r.particle? p'.id = some p) : r.Continues (r.setParticle p') where
  next := rfl
  unit found := ⟨_, found, fun h => h⟩
  particle {id p₁} found₁ := by
    rw [particle?_setParticle] at found₁
    split at found₁
    case isTrue eq => exact ⟨p, eq ▸ found⟩
    case isFalse => exact ⟨p₁, found₁⟩

end Continues

end Roster

namespace World

/-- A world that has gone on from another one, without a new entity and on a map of the same
size. -/
structure Continues (w w' : World) : Prop where
  roster : w.roster.Continues w'.roster
  grid : w'.map.grid = w.map.grid

theorem Continues.refl (w : World) : w.Continues w := ⟨.refl w.roster, rfl⟩

theorem Continues.trans {w w₁ w' : World} (h₁ : w.Continues w₁) (h : w₁.Continues w') :
    w.Continues w' :=
  ⟨h₁.roster.trans h.roster, h.grid.trans h₁.grid⟩

namespace InStep

variable {w w' : World} {kind : EntityKind} {id : EntityId} {e : Entry} {u u' : GameUnit}

/-! ### Inside the map -/

theorem exact (h : w.InStep) : w.index.area.Exact := h.inner.exact

/-- An owned entity reaches at least one unit to each side of its center. -/
theorem one_le_half (held : w.roster.owned? kind id = some e) :
    1 ≤ e.box.half.x.toInt ∧ 1 ≤ e.box.half.y.toInt := by
  have half : ∃ f : Footprint, e.box.half = f.half := by
    cases kind with
    | unit =>
      obtain ⟨u, -, rfl⟩ := Option.map_eq_some_iff.mp held
      exact ⟨u.body.footprint, rfl⟩
    | particle =>
      obtain ⟨p, -, rfl⟩ := Option.map_eq_some_iff.mp held
      exact ⟨p.footprint, rfl⟩
  obtain ⟨f, half⟩ := half
  rw [half]
  exact f.one_le_toInt_half

/-- An owned entity can be clamped, wherever it is put. -/
theorem exists_clamp (h : w.InStep) {b : Box} (held : w.roster.owned? kind id = some e)
    (half : b.half = e.box.half) : ∃ fitted, w.map.clamp b = .ok fitted := by
  have filed := h.sound.lookup?_eq_some_iff.mp ((h.lookup? kind id).trans held)
  obtain ⟨fits_x, fits_y⟩ := h.inner.half_le_of_covers (h.sound.area_covers filed.1)
  obtain ⟨one_x, one_y⟩ := one_le_half held
  obtain ⟨small_x, small_y⟩ := Map.half_bounds_lt h.bounds
  rw [← half] at fits_x fits_y one_x one_y
  refine Map.exists_clamp h.bounds ?_ ?_ ?_ <;> omega

theorem exists_update (h : w.InStep) (kind : EntityKind) (id : EntityId) (box : Box) :
    ∃ filed index, w.index.update kind id box = .ok (filed, index) := by
  obtain ⟨⟨filed, index⟩, updated, -⟩ :=
    (h.sound.update kind id box).exists_ok (not_not_intro h.exact.dividable)
  exact ⟨filed, index, updated⟩

/-! ### Operations -/

theorem exists_erase (h : w.InStep) (id : EntityId) :
    ∃ erased w', w.erase id = .ok (erased, w') ∧ w.Continues w' := by
  have deselected : (w.deselect id).roster = w.roster ∧ (w.deselect id).map = w.map := by
    unfold World.deselect
    split <;> exact ⟨rfl, rfl⟩
  obtain ⟨index, erased, -⟩ := (h.deselect id).sound.erase .unit id
  rw [World.erase, erased, Checked.ok_bind]
  refine ⟨_, _, rfl, ?_, congrArg Map.grid deselected.2⟩
  rw [deselected.1]
  refine ⟨rfl, ?_, fun found => ⟨_, found⟩⟩
  intro id' u found
  rw [Roster.unit?, Roster.removeUnit, EntityId.getElem?_erase] at found
  split at found
  case isTrue => cases found
  case isFalse => exact ⟨u, found, fun h => h⟩

theorem exists_eraseParticle (h : w.InStep) (id : EntityId) :
    ∃ erased w', w.eraseParticle id = .ok (erased, w') ∧ w.Continues w' := by
  obtain ⟨index, erased, -⟩ := h.sound.erase .particle id
  rw [World.eraseParticle, erased, Checked.ok_bind]
  refine ⟨_, _, rfl, ⟨rfl, fun found => ⟨_, found, fun h => h⟩, ?_⟩, rfl⟩
  intro id' p found
  rw [Roster.particle?, Roster.removeParticle, EntityId.getElem?_erase] at found
  split at found
  case isTrue => cases found
  case isFalse => exact ⟨p, found⟩

theorem exists_moveUnit (h : w.InStep) (id : EntityId) (target shift : Point) :
    ∃ ordered w', w.moveUnit id target shift = .ok (ordered, w') ∧ w.Continues w' := by
  unfold World.moveUnit
  split
  case h_1 => exact ⟨false, w, rfl, .refl w⟩
  case h_2 u found =>
    have half : (u.bounds.moveTo target).half = (Entry.ofUnit u).box.half := rfl
    obtain ⟨fitted, clamped⟩ := h.exists_clamp (Roster.owned?_of_unit? found) half
    rw [clamped, Checked.ok_bind]
    split
    case h_1 u' ordered =>
      have hid : u'.id = u.id := congrArg Entry.id (Entry.ofUnit_order ordered)
      rw [← h.unit_id found, ← hid] at found
      refine ⟨true, _, rfl, .setUnit found fun frame => ?_, rfl⟩
      exact GameUnit.hasNextFrame_order frame ordered
    case h_2 => exact ⟨false, w, rfl, .refl w⟩

theorem exists_relocate (h : w.InStep) (id : EntityId) (target : Point) :
    ∃ filed w', w.relocate id target = .ok (filed, w') ∧ w.Continues w' := by
  unfold World.relocate
  split
  case h_1 => exact ⟨false, w, rfl, .refl w⟩
  case h_2 u found =>
    have half : (u.bounds.moveTo target).half = (Entry.ofUnit u).box.half := rfl
    obtain ⟨fitted, clamped⟩ := h.exists_clamp (Roster.owned?_of_unit? found) half
    rw [clamped, Checked.ok_bind]
    obtain ⟨filed, index, updated⟩ := h.exists_update .unit
      ((u.place fitted.center).project w.map.view).id
      ((u.place fitted.center).project w.map.view).bounds
    dsimp only
    rw [updated, Checked.ok_bind]
    rw [← h.unit_id found] at found
    refine ⟨filed, _, rfl, .setUnit found fun frame => ?_, rfl⟩
    exact GameUnit.hasNextFrame_place frame fitted.center

theorem exists_relocateParticle (h : w.InStep) (id : EntityId) (target : Point) :
    ∃ filed w', w.relocateParticle id target = .ok (filed, w') ∧ w.Continues w' := by
  unfold World.relocateParticle
  split
  case h_1 => exact ⟨false, w, rfl, .refl w⟩
  case h_2 p found =>
    have half : (p.bounds.moveTo target).half = (Entry.ofParticle p).box.half := rfl
    obtain ⟨fitted, clamped⟩ := h.exists_clamp (Roster.owned?_of_particle? found) half
    rw [clamped, Checked.ok_bind]
    obtain ⟨filed, index, updated⟩ := h.exists_update .particle
      (Particle.project w.map.view { p with pos := fitted.center }).id
      (Particle.project w.map.view { p with pos := fitted.center }).bounds
    dsimp only at updated ⊢
    rw [updated, Checked.ok_bind]
    rw [← h.particle_id found] at found
    exact ⟨filed, _, rfl, .setParticle found, rfl⟩

theorem continues_damage (h : w.InStep) (id : EntityId) (amount : UInt32) :
    w.Continues (w.damage id amount).2 := by
  unfold World.damage
  split
  case h_1 => exact .refl w
  case h_2 u found =>
    rw [← h.unit_id found] at found
    exact ⟨.setUnit found fun frame => GameUnit.hasNextFrame_damage frame amount, rfl⟩

theorem continues_harvest (h : w.InStep) (id : EntityId) (request : UInt32) :
    w.Continues (w.harvest id request).2 := by
  unfold World.harvest
  split
  case h_1 => exact .refl w
  case h_2 taken u' harvested =>
    obtain ⟨u, found, harvested⟩ := Option.bind_eq_some_iff.mp harvested
    have hid : u'.id = u.id := congrArg Entry.id (Entry.ofUnit_harvest harvested)
    rw [← h.unit_id found, ← hid] at found
    exact ⟨.setUnit found fun _ => GameUnit.hasNextFrame_harvest harvested, rfl⟩

theorem exists_rebuildIndex (h : w.InStep) :
    ∃ w', w.rebuildIndex = .ok w' ∧ w.Continues w' := by
  obtain ⟨index, rebuilt, -⟩ := h.sound.rebuild.exists_ok (not_not_intro h.exact)
  rw [World.rebuildIndex, rebuilt, Checked.ok_bind]
  exact ⟨_, rfl, .refl w.roster, rfl⟩

theorem exists_selectAt (h : w.InStep) (screen : Point) :
    ∃ w', w.selectAt screen = .ok w' ∧ w.Continues w' := by
  obtain ⟨hits, listed, -, -⟩ := h.sound.query .unit w.map.view.box []
  rw [World.selectAt, listed, Checked.ok_bind]
  have considered := considered_foldl w.map.view screen h.keyed.unit ([] ++ hits)
  refine ⟨_, rfl, ⟨considered.next, ?_, ?_⟩, rfl⟩
  · intro id u' found
    rw [considered.unit?] at found
    split at found
    case isTrue =>
      obtain ⟨u, held, rfl⟩ := Option.map_eq_some_iff.mp found
      exact ⟨u, held, fun frame => frame⟩
    case isFalse => exact ⟨u', found, fun frame => frame⟩
  · intro id p found
    rw [Roster.particle?, considered.particles] at found
    exact ⟨p, found⟩

theorem continues_of_projected {roster : Roster} (h : Projected w.map.view w.roster roster) :
    w.Continues { w with roster } where
  grid := rfl
  roster.next := h.next
  roster.unit {id u'} found := by
    rw [h.unit?, Option.map_eq_some_iff] at found
    obtain ⟨u, found, rfl⟩ := found
    refine ⟨u, found, fun frame => ?_⟩
    split <;> exact frame
  roster.particle {id p'} found := by
    rw [h.particle?, Option.map_eq_some_iff] at found
    obtain ⟨p, found, -⟩ := found
    exact ⟨p, found⟩

/-! ### Ticks -/

/-- The map leaves room for a unit and the index for its new place, so a unit whose tick is at no
fault takes its turn. -/
theorem exists_tickUnit (h : w.InStep) (found : w.unit? id = some u) {moved : Bool}
    (stepped : u.tick = .ok (u', moved)) : ∃ w', w.tickUnit u = .ok (moved, w') := by
  rw [World.tickUnit, stepped, Checked.ok_bind]
  cases moved with
  | false => exact ⟨_, rfl⟩
  | true =>
    have box : u'.bounds = u.bounds.moveTo u'.pos :=
      congrArg Entry.box (Entry.ofUnit_tick stepped).1
    have half : u'.bounds.half = (Entry.ofUnit u).box.half := by rw [box]; rfl
    obtain ⟨fitted, clamped⟩ := h.exists_clamp (Roster.owned?_of_unit? found) half
    obtain ⟨filed, index, updated⟩ := h.exists_update .unit
      ((u'.settle fitted.center).project w.map.view).id
      ((u'.settle fitted.center).project w.map.view).bounds
    simp only [if_true, clamped, Checked.ok_bind, updated]
    exact ⟨_, rfl⟩

theorem continues_tickUnit (h : w.InStep) (found : w.unit? id = some u) {moved : Bool}
    (frame : u.HasNextFrame) (ticked : w.tickUnit u = .ok (moved, w')) : w.Continues w' := by
  obtain ⟨u', index, turn, rfl⟩ := of_tickUnit ticked
  have hid : u'.id = id := (GameUnit.id_turn turn).trans (h.unit_id found)
  exact ⟨.setUnit (hid ▸ found) fun _ => GameUnit.hasNextFrame_turn frame turn, rfl⟩

/-- A tick has no fault as long as the frames that units show have successors. -/
theorem exists_tick (h : w.InStep) (steady : w.roster.Steady) :
    ∃ t, w.tick = .ok t ∧ w.Continues t.world := by
  have step (t : Ticking) (id : EntityId) (keeps : t.world.InStep ∧ w.Continues t.world) :
      ∃ t', t.step id = .ok t' ∧ t'.world.InStep ∧ w.Continues t'.world := by
    obtain ⟨inStep, continues⟩ := keeps
    unfold Ticking.step
    split
    case h_1 => exact ⟨t, rfl, inStep, continues⟩
    case h_2 u found =>
      have frame : u.HasNextFrame := continues.roster.steady steady found
      obtain ⟨u', moved, stepped, -⟩ := GameUnit.exists_tick frame
      obtain ⟨w', ticked⟩ := inStep.exists_tickUnit found stepped
      rw [ticked, Checked.ok_bind]
      exact ⟨_, rfl, inStep.tickUnit found ticked,
        continues.trans (inStep.continues_tickUnit found frame ticked)⟩
  obtain ⟨t, ticked, -, continues⟩ :=
    Checked.exists_foldlM (l := w.index.mobileIds) (fun t id _ => step t id) (b := ⟨0, 0, w⟩)
      ⟨h, .refl w⟩
  exact ⟨t, ticked, continues⟩

/-- A frame has no fault as long as the frames that units show have successors. -/
theorem exists_frame (h : w.InStep) (steady : w.roster.Steady) :
    ∃ f, w.frame = .ok f ∧ w.Continues f.world := by
  obtain ⟨t, ticked, continues⟩ := h.exists_tick steady
  obtain ⟨roster, culled, projected⟩ := (h.tick ticked).exists_cull
  rw [World.frame, ticked, Checked.ok_bind, culled, Checked.ok_bind]
  exact ⟨_, rfl, continues.trans (continues_of_projected projected)⟩

end InStep

end World

end Skirmish
