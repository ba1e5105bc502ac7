import Skirmish.Proofs.World.Founding

/-!
# Picking by a click

A click goes through what the index lists for the viewport, and culling does the same.  Both find
the living units in view, so a unit can be picked exactly where it is drawn: at its box on the
screen, computed from where the unit is now and from how its sprite is displaced.  Of several units
the one with the latest id is picked.

Which unit is picked does not depend on what was selected before, nor on the screen boxes that the
units remember.  Both are overwritten, and nothing else is.

## Main definitions

* `World.DrawnAt` — the listed units whose boxes on the screen contain a point.
* `World.Clicked` — what a click does to a world.
* `World.SameScene` — two worlds that differ at most in what a click overwrites.

## Main results

* `InStep.mem_inView_units` — culling lists the living units in view.
* `InStep.exists_clicked` — a click has no fault, and picks the latest of the drawn units.
* `SameScene.selected_eq` — clicks on the same scene pick the same unit.
* `World.clicked_of_reachable` — every click on a world that can be reached.
-/

namespace Skirmish

namespace World

/-! ### Units in view -/

variable {w v w' : World} {id : EntityId} {screen : Point}

/-- Culling lists the living units that meet the viewport. -/
theorem InStep.mem_inView_units (h : w.InStep) : id ∈ w.inView.units ↔
    ∃ u, w.unit? id = some u ∧ u.bounds.Meets w.map.view.box ∧ u.hp ≠ 0 := by
  have live (u : GameUnit) : ¬ u.isDead ↔ u.hp ≠ 0 := not_congr decide_eq_true_iff
  simp only [inView, List.mem_map, h.keyed.mem_liveIn, live]
  constructor
  · rintro ⟨u, ⟨found, seen⟩, rfl⟩
    exact ⟨u, found, seen⟩
  · rintro ⟨u, found, seen⟩
    obtain rfl := h.unit_id found
    exact ⟨u, ⟨found, seen⟩, rfl⟩

/-- The units of a draw list whose boxes on the screen, as they are now, contain a point. -/
def DrawnAt (w : World) (list : DrawList) (screen : Point) (id : EntityId) : Prop :=
  id ∈ list.units ∧ ∃ u, w.unit? id = some u ∧ screen ∈ u.body.screenBox w.map.view

/-- The candidates of a click are the units in view, so those that can be picked are those that are
drawn at its point. -/
theorem InStep.picked_iff (h : w.InStep) {hits : List EntityId}
    (mem : ∀ id, id ∈ hits ↔ ∃ u, w.unit? id = some u ∧ u.bounds.Meets w.map.view.box)
    (id : EntityId) :
    Picked w.map.view screen hits w.roster id ↔ w.DrawnAt w.inView screen id := by
  have pickable_iff (u : GameUnit) : pickable screen (u.project w.map.view) ↔
      u.hp ≠ 0 ∧ screen ∈ u.body.screenBox w.map.view := by
    rw [pickable, Bool.and_eq_true, Bool.not_eq_true', decide_eq_true_iff]
    exact and_congr_left fun _ => decide_eq_false_iff_not
  rw [Picked, DrawnAt, mem, h.mem_inView_units]
  constructor
  · rintro ⟨⟨u, found, seen⟩, u', found', pick⟩
    obtain rfl : u = u' := Option.some.inj (found.symm.trans found')
    obtain ⟨alive, shown⟩ := (pickable_iff u).mp pick
    exact ⟨⟨u, found, seen, alive⟩, u, found, shown⟩
  · rintro ⟨⟨u, found, seen, alive⟩, u', found', shown⟩
    obtain rfl : u = u' := Option.some.inj (found.symm.trans found')
    exact ⟨⟨u, found, seen⟩, u, found, (pickable_iff u).mpr ⟨alive, shown⟩⟩

/-! ### Clicks -/

/-- What a click does to a world. -/
structure Clicked (w : World) (screen : Point) (list : DrawList) (w' : World) : Prop where
  /-- The latest of the units that are drawn at the point is selected, if there is one. -/
  latest : EntityId.IsLatest (w.DrawnAt list screen) w'.selected
  /-- The selected unit is owned. -/
  selected? : w'.selected?.map GameUnit.id = w'.selected
  /-- The screen boxes of what is in view are computed anew, of dead units too. -/
  unit? : ∀ id, w'.unit? id = (w.unit? id).map fun u =>
    if u.bounds.Meets w.map.view.box then
      { u with body.screen := u.body.screenBox w.map.view }
    else u
  particles : w'.roster.particles = w.roster.particles
  next : w'.roster.next = w.roster.next
  map : w'.map = w.map
  index : w'.index = w.index

/-- The unit that is found has been projected. -/
theorem Considered.unit?_of_found {view : Viewport} {ids : List EntityId} {r : Roster}
    {state : Option EntityId × Roster} (h : Considered view screen ids r state)
    (found : state.1 = some id) :
    ∃ u, r.unit? id = some u ∧ state.2.unit? id = some (u.project view) := by
  have latest := h.latest
  rw [found] at latest
  obtain ⟨mem, u, held, -⟩ := latest.1
  exact ⟨u, held, by rw [h.unit?, if_pos mem, held, Option.map_some]⟩

/-- A click has no fault, and picks the latest of the units that culling lists at its point. -/
theorem InStep.exists_clicked (h : w.InStep) (screen : Point) :
    ∃ w', w.selectAt screen = .ok w' ∧ w.Clicked screen w.inView w' := by
  obtain ⟨hits, listed, -, mem⟩ := h.sound.query .unit w.map.view.box []
  have mem (id : EntityId) :
      id ∈ hits ↔ ∃ u, w.unit? id = some u ∧ u.bounds.Meets w.map.view.box := by
    rw [mem, h.lookup?]
    simp [Roster.owned?, World.unit?, Entry.ofUnit]
  rw [World.selectAt, listed, Checked.ok_bind, List.nil_append]
  have considered := considered_foldl w.map.view screen h.keyed.unit hits
  generalize List.foldl (consider w.map.view screen) _ _ = state at considered ⊢
  refine ⟨_, rfl, considered.latest.congr (h.picked_iff mem), ?_, ?_, considered.particles,
    considered.next, rfl, rfl⟩
  · dsimp only
    rw [World.selected?]
    cases found : state.1 with
    | none => rfl
    | some id =>
      obtain ⟨u, held, now⟩ := considered.unit?_of_found found
      rw [Option.bind_some, World.unit?, now, Option.map_some, GameUnit.id_project, h.unit_id held]
  · intro id
    refine (considered.unit? id).trans ?_
    rw [World.unit?]
    cases held : w.roster.unit? id with
    | none => rw [Option.map_none, Option.map_none, ite_self]
    | some u =>
      have iff : id ∈ hits ↔ u.bounds.Meets w.map.view.box := by
        rw [mem, World.unit?, held]
        simp
      simp only [iff, Option.map_some]
      split <;> rfl

/-! ### Scenes -/

/-- Two worlds with the same entities at the same places, on the same map.  They may differ in the
selection, and in the screen boxes that the entities remember. -/
structure SameScene (w v : World) : Prop where
  map : v.map = w.map
  index : v.index = w.index
  unit? : ∃ screen : EntityId → Box, ∀ id,
    v.unit? id = (w.unit? id).map fun u => { u with body.screen := screen id }
  particle? : ∃ screen : EntityId → Box, ∀ id,
    v.particle? id = (w.particle? id).map fun p => { p with screen := screen id }

/-- An entry does not see the remembered screen box. -/
theorem SameScene.inStep (same : w.SameScene v) (h : w.InStep) : v.InStep := by
  have entries : w.roster.SameEntries v.roster := by
    obtain ⟨unitBox, units⟩ := same.unit?
    obtain ⟨particleBox, particles⟩ := same.particle?
    intro kind id
    cases kind with
    | unit =>
      refine (congrArg (Option.map Entry.ofUnit) (units id)).trans ?_
      rw [Option.map_map]
      rfl
    | particle =>
      refine (congrArg (Option.map Entry.ofParticle) (particles id)).trans ?_
      rw [Option.map_map]
      rfl
  have after := h.of_sameEntries entries
  refine ⟨?_, ?_, ?_⟩
  · rw [same.index]
    exact after.sound
  · rw [same.index, same.map]
    exact after.bounds
  · rw [same.index]
    exact after.lookup?

/-- The same units are in view. -/
theorem SameScene.mem_inView_units (same : w.SameScene v) (h : w.InStep) :
    id ∈ v.inView.units ↔ id ∈ w.inView.units := by
  obtain ⟨box, units⟩ := same.unit?
  rw [(same.inStep h).mem_inView_units, h.mem_inView_units, units, same.map]
  simp only [Option.map_eq_some_iff, exists_exists_and_eq_and]
  rfl

/-- The same units are drawn at a point. -/
theorem SameScene.drawnAt_iff (same : w.SameScene v) (list : DrawList) (screen : Point)
    (id : EntityId) : v.DrawnAt list screen id ↔ w.DrawnAt list screen id := by
  obtain ⟨box, units⟩ := same.unit?
  rw [DrawnAt, DrawnAt, units, same.map]
  simp only [Option.map_eq_some_iff, exists_exists_and_eq_and]
  rfl

/-- A click on the same scene picks the same unit. -/
theorem SameScene.exists_clicked (same : w.SameScene v) (h : w.InStep) {screen : Point}
    (clicked : w.Clicked screen w.inView w') : ∃ v', v.selectAt screen = .ok v' ∧
      v.Clicked screen w.inView v' ∧ v'.selected = w'.selected := by
  obtain ⟨v', picked, clicked'⟩ := (same.inStep h).exists_clicked screen
  have latest : EntityId.IsLatest (v.DrawnAt w.inView screen) v'.selected :=
    clicked'.latest.congr fun _ => and_congr_left fun _ => same.mem_inView_units h
  have eq := (latest.congr (same.drawnAt_iff w.inView screen)).unique clicked.latest
  exact ⟨v', picked, { clicked' with latest }, eq⟩

/-! ### Reachable worlds -/

/-- On a world that can be reached, a click at any point of the screen has no fault.  It selects the
latest of the living units in view whose boxes on the screen contain the point, and replies with it;
culling lists these same units.  What was selected before and what the screen boxes were before
makes no difference. -/
theorem clicked_of_reachable (reachable : w.Reachable) (screen : Point) :
    ∃ list culled w', w.cull = .ok (list, culled) ∧
      (∀ id, id ∈ list.units ↔
        ∃ u, w.unit? id = some u ∧ u.bounds.Meets w.map.view.box ∧ u.hp ≠ 0) ∧
      (Op.selectAt screen).perform w = .ok (some (.picked w'.selected), w') ∧
      w.Clicked screen list w' ∧
      ∀ v, w.SameScene v → ∃ v',
        (Op.selectAt screen).perform v = .ok (some (.picked w'.selected), v') ∧
        v.Clicked screen list v' := by
  have h := reachable.inStep
  obtain ⟨roster, culled, -⟩ := h.exists_cull
  obtain ⟨w', picked, clicked⟩ := h.exists_clicked screen
  have performed {v v' : World} (picked : v.selectAt screen = .ok v') :
      (Op.selectAt screen).perform v = .ok (some (.picked v'.selected), v') := by
    rw [Op.perform, picked, Checked.map_ok]
  refine ⟨w.inView, _, w', culled, fun id => h.mem_inView_units, performed picked, clicked, ?_⟩
  intro v same
  obtain ⟨v', picked', clicked', eq⟩ := same.exists_clicked h clicked
  exact ⟨v', eq ▸ performed picked', clicked'⟩

/-- Five villagers about one point of the screen.  The third one is dead; the sprite of the fourth
is displaced onto the point, and the sprite of the fifth away from it. -/
def crowd : List Op :=
  [.spawnUnit fun id => .ok (.villager id ⟨200, 200⟩ 1),
    .spawnUnit fun id => .ok (.villager id ⟨204, 198⟩ 1),
    .spawnUnit fun id => .ok (.villager id ⟨202, 203⟩ 2),
    .spawnUnit fun id => .ok (.villager id ⟨300, 260⟩ 2),
    .spawnUnit fun id => .ok (.villager id ⟨200, 201⟩ 2),
    .damage ⟨3⟩ 99, .moveUnit ⟨4⟩ ⟨300, 260⟩ ⟨-100, -60⟩, .moveUnit ⟨5⟩ ⟨200, 201⟩ ⟨0, 40⟩,
    .select (some ⟨1⟩), .reshapeViewport 100 100 400 300]

theorem clicked_of_crowd : ∃ (w : World) (list : DrawList) (culled w' : World), w.Reachable ∧
    w.selected = some ⟨1⟩ ∧ w.cull = .ok (list, culled) ∧
    list.units = [⟨1⟩, ⟨2⟩, ⟨4⟩, ⟨5⟩] ∧
    (Op.selectAt ⟨100, 100⟩).perform w = .ok (some (.picked (some ⟨4⟩)), w') ∧
    w.Clicked ⟨100, 100⟩ list w' := by
  have seen : (((onMap (Map.empty.resize .small) 1) >>= run crowd) >>= fun r =>
      (r.2.selectAt ⟨100, 100⟩).map fun w' => (r.2.selected, r.2.inView.units, w'.selected))
      = .ok (some ⟨1⟩, [⟨1⟩, ⟨2⟩, ⟨4⟩, ⟨5⟩], some ⟨4⟩) := by
    decide +kernel
  obtain ⟨⟨replies, w⟩, ran, seen⟩ := Checked.bind_eq_ok_iff.mp seen
  obtain ⟨w', picked, seen⟩ := Checked.map_eq_ok_iff.mp seen
  obtain ⟨w₀, started, ran⟩ := Checked.bind_eq_ok_iff.mp ran
  have reachable : w.Reachable := (Reachable.onMap started).run ran
  obtain ⟨list, culled, w'', isCulled, -, performed, clicked, -⟩ :=
    clicked_of_reachable reachable ⟨100, 100⟩
  -- culling lists what is in view, and the click is the one that was made
  obtain ⟨roster, inView, -⟩ := reachable.inStep.exists_cull
  obtain rfl : list = w.inView := congrArg Prod.fst (Except.ok.inj (isCulled.symm.trans inView))
  obtain rfl : w' = w'' := by
    rw [Op.perform, picked, Checked.map_ok] at performed
    exact congrArg Prod.snd (Except.ok.inj performed)
  simp only [Prod.mk.injEq] at seen
  obtain ⟨selected, units, now⟩ := seen
  exact ⟨w, w.inView, culled, w', reachable, selected, isCulled, units, now ▸ performed, clicked⟩

end World

end Skirmish
