import Skirmish.Proofs.World.Founding

/-!
# What a tick does

A tick goes through the units that can walk, each of them once, in the order of their ids.  The ids
are listed before the first unit moves, so it does not matter that the units change their places in
the index on the way.  Each unit takes its turn by itself: what becomes of it depends on the unit and
on the map alone.  Everything else stays as it is.

## Main definitions

* `GameUnit.moves` — whether the tick of a unit changes its position.
* `Roster.walkers` — the owned units that can walk.
* `Ticking.After` — a world in the middle of a tick, after the turns of some units.
* `World.Ticked` — what a tick does to a world.

## Main results

* `Ticking.After.step`, `Ticking.After.foldlM` — the turn of one unit, and of several ones.
* `InStep.mobileIds_eq` — the index lists the units that can walk.
* `InStep.tick_cases` — a tick, or the fault of a unit.
* `World.tick_of_reachable` — every tick of a world that can be reached.
-/

namespace Skirmish

namespace GameUnit

/-- Whether the position of a unit changes when it takes its tick. -/
def moves (u : GameUnit) : Bool :=
  match u.tick with
  | .ok (_, moved) => moved
  | .error _ => false

theorem moves_of_turn {map : Map} {u u' : GameUnit} {moved : Bool}
    (h : u.turn map = .ok (u', moved)) : u.moves = moved := by
  obtain ⟨u₁, stepped, -⟩ := of_turn h
  rw [moves, stepped]

end GameUnit

namespace World

/-! ### Turns one after the other -/

/-- A world in the middle of a tick: the units of some ids have taken their turns, and nothing else
has changed. -/
structure Ticking.After (w : World) (done : List EntityId) (s : Ticking) : Prop where
  inStep : s.world.InStep
  map : s.world.map = w.map
  selected : s.world.selected = w.selected
  particles : s.world.roster.particles = w.roster.particles
  next : s.world.roster.next = w.roster.next
  turned : ∀ {id u}, id ∈ done → w.unit? id = some u →
    ∃ u' moved, u.turn w.map = .ok (u', moved) ∧ s.world.unit? id = some u'
  waiting : ∀ {id}, id ∉ done → s.world.unit? id = w.unit? id
  ticked : s.ticked = (done.filterMap w.unit?).length
  moved : s.moved = (done.filterMap w.unit?).countP GameUnit.moves

namespace Ticking.After

variable {w : World} {done ids : List EntityId} {s : Ticking} {id : EntityId}

theorem start (h : w.InStep) : Ticking.After w [] ⟨0, 0, w⟩ where
  inStep := h
  map := rfl
  selected := rfl
  particles := rfl
  next := rfl
  turned mem := absurd mem List.not_mem_nil
  waiting _ := rfl
  ticked := rfl
  moved := rfl

/-- An id under which there is no unit is passed over. -/
theorem pass (h : s.After w done) (missing : w.unit? id = none) :
    s.After w (done ++ [id]) where
  inStep := h.inStep
  map := h.map
  selected := h.selected
  particles := h.particles
  next := h.next
  turned {id' u} mem found := by
    rcases List.mem_append.mp mem with mem | mem
    · exact h.turned mem found
    · rw [List.mem_singleton.mp mem, missing] at found
      cases found
  waiting not_done := h.waiting fun mem => not_done (List.mem_append_left _ mem)
  ticked := by simp [h.ticked, missing]
  moved := by simp [h.moved, missing]

/-- A unit takes its turn. -/
theorem turn {u u' : GameUnit} {moved : Bool} {w' : World} (h : s.After w done)
    (found : w.unit? id = some u) (turn : u.turn w.map = .ok (u', moved))
    (inStep : w'.InStep) (map : w'.map = s.world.map) (selected : w'.selected = s.world.selected)
    (roster : w'.roster = s.world.roster.setUnit u') (hid : u'.id = id) :
    After w (done ++ [id]) ⟨s.ticked + 1, s.moved + (if moved then 1 else 0), w'⟩ := by
  have unit (id' : EntityId) :
      w'.unit? id' = if id' = id then some u' else s.world.unit? id' := by
    rw [World.unit?, roster, Roster.unit?_setUnit, hid]
    rfl
  refine ⟨inStep, map.trans h.map, selected.trans h.selected, ?_, ?_, ?_, ?_, ?_, ?_⟩
  · exact (congrArg Roster.particles roster).trans h.particles
  · exact (congrArg Roster.next roster).trans h.next
  · intro id' u₀ mem held
    dsimp only
    rw [unit]
    split
    case isTrue eq =>
      rw [eq, found] at held
      exact ⟨u', moved, Option.some.inj held ▸ turn, rfl⟩
    case isFalse ne =>
      have mem : id' ∈ done := (List.mem_append.mp mem).resolve_right fun mem =>
        ne (List.mem_singleton.mp mem)
      exact h.turned mem held
  · intro id' not_done
    obtain ⟨not_done, ne⟩ : id' ∉ done ∧ id' ≠ id := by simpa using not_done
    dsimp only
    rw [unit, if_neg ne, h.waiting not_done]
  · simp [h.ticked, found]
  · simp [h.moved, found, GameUnit.moves_of_turn turn]

/-- The next unit takes its turn, unless its tick is at fault. -/
theorem step (h : s.After w done) (fresh : id ∉ done) :
    (∃ s', s.step id = .ok s' ∧ s'.After w (done ++ [id])) ∨
    ∃ fault u, s.step id = .error fault ∧ w.unit? id = some u ∧ u.tick = .error fault := by
  have here : s.world.unit? id = w.unit? id := h.waiting fresh
  rw [Ticking.step, here]
  cases found : w.unit? id with
  | none => exact .inl ⟨s, rfl, h.pass found⟩
  | some u =>
    rw [found] at here
    dsimp only
    cases stepped : u.tick with
    | error fault =>
      have failed : s.world.tickUnit u = .error fault := by
        rw [World.tickUnit, stepped, Checked.error_bind]
      exact .inr ⟨fault, u, by rw [failed, Checked.error_bind], rfl, stepped⟩
    | ok result =>
      obtain ⟨w', ticked⟩ := h.inStep.exists_tickUnit here stepped
      obtain ⟨u', index, turn, eq⟩ := of_tickUnit ticked
      have hid : u'.id = id := (GameUnit.id_turn turn).trans (h.inStep.unit_id here)
      rw [ticked, Checked.ok_bind]
      refine .inl ⟨_, rfl, h.turn found (h.map ▸ turn) (h.inStep.tickUnit here ticked)
        ?_ ?_ ?_ hid⟩ <;> rw [eq]

/-- The units of several ids take their turns, unless the tick of one of them is at fault. -/
theorem foldlM (h : s.After w done) (nodup : (done ++ ids).Nodup) :
    (∃ t, ids.foldlM Ticking.step s = .ok t ∧ t.After w (done ++ ids)) ∨
    ∃ fault id u, ids.foldlM Ticking.step s = .error fault ∧ w.unit? id = some u ∧
      u.tick = .error fault := by
  induction ids generalizing done s with
  | nil => exact .inl ⟨s, rfl, by rwa [List.append_nil]⟩
  | cons id ids ih =>
    have fresh : id ∉ done := fun mem =>
      (List.nodup_append.mp nodup).2.2 id mem id List.mem_cons_self rfl
    rw [List.foldlM_cons]
    rcases h.step fresh with ⟨s₁, stepped, h₁⟩ | ⟨fault, u, failed, found, at_fault⟩
    · rw [List.append_cons] at nodup ⊢
      rw [stepped, Checked.ok_bind]
      exact ih h₁ nodup
    · rw [failed, Checked.error_bind]
      exact .inr ⟨fault, id, u, rfl, found, at_fault⟩

end Ticking.After

end World

/-! ### The units that can walk -/

namespace Roster

/-- The owned units that can walk, in the order of their ids. -/
def walkers (r : Roster) : List GameUnit := (r.units.toList.map Prod.snd).filter GameUnit.isMobile

theorem Keyed.mem_walkers {r : Roster} {u : GameUnit} (h : r.Keyed) :
    u ∈ r.walkers ↔ r.unit? u.id = some u ∧ u.isMobile := by
  rw [walkers, List.mem_filter, EntityId.mem_values h.unit, unit?]

end Roster

namespace World

variable {w : World}

/-- The index lists the owned units that can walk. -/
theorem InStep.mem_mobileIds (h : w.InStep) {id : EntityId} :
    id ∈ w.index.mobileIds ↔ ∃ u, w.unit? id = some u ∧ u.isMobile := by
  rw [h.sound.mem_mobileIds, h.lookup?]
  constructor
  · rintro ⟨e, held, mobile⟩
    obtain ⟨u, found, rfl⟩ := Option.map_eq_some_iff.mp held
    exact ⟨u, found, mobile⟩
  · rintro ⟨u, found, mobile⟩
    exact ⟨.ofUnit u, Roster.owned?_of_unit? found, mobile⟩

theorem InStep.mobileIds_eq (h : w.InStep) :
    w.index.mobileIds = w.roster.walkers.map GameUnit.id := by
  have ascending : EntityId.Ascending (w.roster.walkers.map GameUnit.id) :=
    List.Pairwise.sublist (List.filter_sublist.map _) (EntityId.ascending_values h.keyed.unit)
  refine h.sound.ascending_mobileIds.eq_of_mem_iff ascending fun id => ?_
  rw [h.mem_mobileIds, List.mem_map]
  constructor
  · rintro ⟨u, found, mobile⟩
    obtain rfl := h.unit_id found
    exact ⟨u, h.keyed.mem_walkers.mpr ⟨found, mobile⟩, rfl⟩
  · rintro ⟨u, mem, rfl⟩
    exact ⟨u, h.keyed.mem_walkers.mp mem⟩

theorem InStep.filterMap_mobileIds (h : w.InStep) :
    w.index.mobileIds.filterMap w.unit? = w.roster.walkers := by
  have lookup (u : GameUnit) (mem : u ∈ w.roster.walkers) : (w.unit? ∘ GameUnit.id) u = some u :=
    (h.keyed.mem_walkers.mp mem).1
  rw [h.mobileIds_eq, List.filterMap_map, List.filterMap_congr lookup, List.filterMap_some]

/-! ### The whole tick -/

/-- What a tick does to a world. -/
structure Ticked (w : World) (t : Ticking) : Prop where
  /-- Every unit that can walk takes one turn, and it does so on the map alone. -/
  mobile : ∀ {id u}, w.unit? id = some u → u.isMobile →
    ∃ u' moved, u.turn w.map = .ok (u', moved) ∧ t.world.unit? id = some u'
  unit?_of_not_mobile : ∀ {id u}, w.unit? id = some u → ¬ u.isMobile → t.world.unit? id = some u
  unit?_of_none : ∀ {id}, w.unit? id = none → t.world.unit? id = none
  particles : t.world.roster.particles = w.roster.particles
  next : t.world.roster.next = w.roster.next
  map : t.world.map = w.map
  selected : t.world.selected = w.selected
  ticked : t.ticked = w.roster.walkers.length
  moved : t.moved = w.roster.walkers.countP GameUnit.moves

theorem Ticking.After.ticked_of_mobileIds {t : Ticking} (h : w.InStep)
    (after : t.After w w.index.mobileIds) : w.Ticked t where
  mobile found mobile := after.turned (h.mem_mobileIds.mpr ⟨_, found, mobile⟩) found
  unit?_of_not_mobile {id u} found still := by
    rw [after.waiting, found]
    intro listed
    obtain ⟨u', found', mobile⟩ := h.mem_mobileIds.mp listed
    exact still (Option.some.inj (found.symm.trans found') ▸ mobile)
  unit?_of_none {id} missing := by
    rw [after.waiting, missing]
    intro listed
    obtain ⟨u, found, -⟩ := h.mem_mobileIds.mp listed
    rw [missing] at found
    cases found
  particles := after.particles
  next := after.next
  map := after.map
  selected := after.selected
  ticked := by rw [after.ticked, h.filterMap_mobileIds]
  moved := by rw [after.moved, h.filterMap_mobileIds]

/-- A tick, or the fault of a unit. -/
theorem InStep.tick_cases (h : w.InStep) : (∃ t, w.tick = .ok t ∧ w.Ticked t) ∨
    ∃ fault id u, w.tick = .error fault ∧ w.unit? id = some u ∧ u.tick = .error fault := by
  have nodup : ([] ++ w.index.mobileIds).Nodup := h.sound.ascending_mobileIds.nodup
  rcases (Ticking.After.start h).foldlM nodup with
    ⟨t, ticked, after⟩ | ⟨fault, id, u, failed, found, at_fault⟩
  · exact .inl ⟨t, ticked, after.ticked_of_mobileIds h⟩
  · exact .inr ⟨fault, id, u, failed, found, at_fault⟩

/-- What becomes of a unit does not depend on the rest of the world. -/
theorem Ticked.unit?_congr {w₂ : World} {t t₂ : Ticking} (h : w.Ticked t) (h₂ : w₂.Ticked t₂)
    (map : w₂.map = w.map) {id : EntityId} (same : w₂.unit? id = w.unit? id) :
    t₂.world.unit? id = t.world.unit? id := by
  cases found : w.unit? id with
  | none => rw [h.unit?_of_none found, h₂.unit?_of_none (same.trans found)]
  | some u =>
    by_cases mobile : u.isMobile
    · obtain ⟨u', moved, turn, after⟩ := h.mobile found mobile
      obtain ⟨u₂, moved₂, turn₂, after₂⟩ := h₂.mobile (same.trans found) mobile
      rw [map, turn] at turn₂
      obtain ⟨rfl, -⟩ := Prod.mk.inj (Except.ok.inj turn₂)
      rw [after, after₂]
    · rw [h.unit?_of_not_mobile found mobile, h₂.unit?_of_not_mobile (same.trans found) mobile]

/-- Every tick of a world that can be reached lets each unit that can walk take one turn, dead ones
too, and changes nothing else; it counts these units and those of them that move.  In any other
world that can be reached, with the same map, a tick makes the same of the same unit.  There is no
tick only if that of a unit is at fault, which shows the last frame number that there is. -/
theorem tick_of_reachable (reachable : w.Reachable) :
    (∃ t, w.tick = .ok t ∧ w.Ticked t ∧
      ∀ (w₂ : World) (t₂ : Ticking), w₂.Reachable → w₂.tick = .ok t₂ → w₂.map = w.map →
        ∀ id, w₂.unit? id = w.unit? id → t₂.world.unit? id = t.world.unit? id) ∨
    ∃ fault id u, w.tick = .error fault ∧ w.unit? id = some u ∧ u.tick = .error fault ∧
      u.isMobile ∧ u.body.frame.toNat + 1 = UInt32.size := by
  rcases reachable.inStep.tick_cases with ⟨t, ticked, h⟩ | ⟨fault, id, u, failed, found, at_fault⟩
  · refine .inl ⟨t, ticked, h, fun w₂ t₂ reachable₂ ticked₂ map id same => ?_⟩
    rcases reachable₂.inStep.tick_cases with ⟨t₂', ticked₂', h₂⟩ | ⟨fault, -, -, failed₂, -⟩
    · obtain rfl : t₂ = t₂' := Except.ok.inj (ticked₂.symm.trans ticked₂')
      exact h.unit?_congr h₂ map same
    · exact absurd (ticked₂.symm.trans failed₂) nofun
  · exact .inr ⟨fault, id, u, failed, found, at_fault, GameUnit.of_tick_eq_error at_fault⟩

/-- A villager on the march, a dead one, a house and a piece of debris. -/
def patrol : List Op :=
  [.spawnUnit fun id => .ok (.villager id ⟨300, 300⟩ 1),
    .spawnUnit fun id => .ok (.villager id ⟨500, 300⟩ 2),
    .spawnUnit fun id => .ok (.building id ⟨900, 900⟩ .house 1),
    .spawnParticle fun id => .ok (.debris id ⟨200, 350⟩ 0),
    .moveUnit ⟨1⟩ ⟨400, 300⟩ ⟨0, 0⟩, .damage ⟨2⟩ 1000]

theorem tick_of_patrol : ∃ (w : World) (t : Ticking), w.Reachable ∧ w.tick = .ok t ∧
    w.Ticked t ∧ t.ticked = 2 := by
  have frames : ((onMap (Map.empty.resize .small) 1) >>= run patrol).map (fun r =>
      r.2.roster.walkers.map fun u => u.body.frame) = .ok [0, 0] := by
    decide +kernel
  obtain ⟨⟨replies, w⟩, ran, frames⟩ := Checked.map_eq_ok_iff.mp frames
  obtain ⟨w₀, started, ran⟩ := Checked.bind_eq_ok_iff.mp ran
  have reachable : w.Reachable := (Reachable.onMap started).run ran
  rcases tick_of_reachable reachable with
    ⟨t, ticked, h, -⟩ | ⟨fault, id, u, -, found, -, mobile, last⟩
  · refine ⟨w, t, reachable, ticked, h, ?_⟩
    have two := congrArg List.length frames
    rw [List.length_map] at two
    exact h.ticked.trans two
  · -- both villagers show their first frame
    have keyed := reachable.inStep.keyed
    obtain rfl := keyed.unit found
    have shown : u.body.frame ∈ w.roster.walkers.map fun u => u.body.frame :=
      List.mem_map_of_mem (keyed.mem_walkers.mpr ⟨found, mobile⟩)
    rw [frames] at shown
    have first : u.body.frame = 0 := by simpa using shown
    rw [first] at last
    exact absurd last (by decide)

end World

end Skirmish
