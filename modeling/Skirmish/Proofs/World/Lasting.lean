import Skirmish.Proofs.World.Culling
import Skirmish.Proofs.World.Selection

/-!
# What becomes of the entities

Most operations of a world change where its units are, where they go and what is shown of them, and
nothing else: every unit becomes one that a few basic changes lead to, and a particle is put
elsewhere at most.  A feature of units that none of these changes touches stays as it is, so
whatever is to be said of hit points or stocks over a whole match is said of the few operations that
are left: spawning, erasing, damage and harvest.

## Main definitions

* `GameUnit.Becomes`, `Particle.Becomes` — what the operations make of an entity.
* `GameUnit.IsLasting` — a feature that moving and showing a unit leave alone.
* `Roster.Evolves`, `World.Evolves` — the same entities, or what has become of them.
* `Roster.Keeps`, `World.Keeps` — the same entities, with the same features.

## Main results

* `GameUnit.IsLasting.becomes` — a lasting feature stays, whatever becomes of a unit.
* `GameUnit.isLasting_health` — hit points last.
* `InStep.evolves_moveUnit`, `InStep.evolves_tick`, `InStep.evolves_cull` and the others —
  operations under which the entities of a world evolve.
* `World.of_spawnUnit`, `World.of_spawnParticle`, `InStep.of_erase`, `InStep.of_eraseParticle` — all
  that spawning and erasing do to the roster.
-/

namespace Skirmish

/-! ### Changes of an entity -/

/-- A particle becomes another one by being put onto points and projected: nothing else changes. -/
def Particle.Becomes (p p' : Particle) : Prop := ∃ pos screen, p' = { p with pos, screen }

theorem Particle.Becomes.refl (p : Particle) : p.Becomes p := ⟨p.pos, p.screen, rfl⟩

theorem Particle.Becomes.trans {p p₁ p' : Particle} (h₁ : p.Becomes p₁) (h : p₁.Becomes p') :
    p.Becomes p' := by
  obtain ⟨_, _, rfl⟩ := h₁
  obtain ⟨pos, screen, rfl⟩ := h
  exact ⟨pos, screen, rfl⟩

theorem Particle.becomes_project (v : Viewport) (p : Particle) : p.Becomes (p.project v) :=
  ⟨p.pos, p.screenBox v, rfl⟩

namespace GameUnit

/-- A unit becomes another one by being projected, put onto points and ordered about, and by
ticks. -/
inductive Becomes (u : GameUnit) : GameUnit → Prop
  | refl : u.Becomes u
  | project {u' : GameUnit} (v : Viewport) : u.Becomes u' → u.Becomes (u'.project v)
  | place {u' : GameUnit} (pos : Point) : u.Becomes u' → u.Becomes (u'.place pos)
  | order {u' u'' : GameUnit} {target shift : Point} :
    u.Becomes u' → u'.order? target shift = some u'' → u.Becomes u''
  | tick {u' u'' : GameUnit} {moved : Bool} :
    u.Becomes u' → u'.tick = .ok (u'', moved) → u.Becomes u''

theorem Becomes.trans {u u₁ u' : GameUnit} (h₁ : u.Becomes u₁) (h : u₁.Becomes u') :
    u.Becomes u' := by
  induction h with
  | refl => exact h₁
  | project v _ ih => exact ih.project v
  | place pos _ ih => exact ih.place pos
  | order _ ordered ih => exact ih.order ordered
  | tick _ ticked ih => exact ih.tick ticked

theorem Becomes.settle {u u' : GameUnit} (h : u.Becomes u') (pos : Point) :
    u.Becomes (u'.settle pos) := by
  unfold GameUnit.settle
  split
  case isTrue => exact h
  case isFalse => exact h.place pos

theorem becomes_turn {map : Map} {u u' : GameUnit} {moved : Bool}
    (h : u.turn map = .ok (u', moved)) : u.Becomes u' := by
  obtain ⟨u₁, stepped, h⟩ := of_turn h
  have ticked : u.Becomes u₁ := Becomes.refl.tick stepped
  rcases h with ⟨-, rfl⟩ | ⟨-, fitted, -, rfl⟩
  · exact ticked
  · exact (ticked.settle fitted.center).project map.view

/-! ### Features of units -/

variable {β : Type} {f : GameUnit → β} {u u' : GameUnit}

/-- A feature of a unit that tells neither where it is and where it goes, nor what is shown of
it. -/
structure IsLasting (f : GameUnit → β) : Prop where
  project : ∀ v u, f (u.project v) = f u
  place : ∀ pos u, f (GameUnit.place pos u) = f u
  order : ∀ {target shift u u'}, u.order? target shift = some u' → f u' = f u
  tick : ∀ {u u' moved}, u.tick = .ok (u', moved) → f u' = f u

/-- A lasting feature stays, whatever becomes of a unit. -/
theorem IsLasting.becomes (lasting : IsLasting f) (h : u.Becomes u') : f u' = f u := by
  induction h with
  | refl => rfl
  | project v _ ih => exact (lasting.project v _).trans ih
  | place pos _ ih => exact (lasting.place pos _).trans ih
  | order _ ordered ih => exact (lasting.order ordered).trans ih
  | tick _ ticked ih => exact (lasting.tick ticked).trans ih

/-- The hit points of a unit, and how many it can have. -/
def health (u : GameUnit) : UInt32 × UInt32 := (u.hp, u.hpMax)

theorem health_order {target shift : Point} (h : u.order? target shift = some u') :
    u'.health = u.health := by
  unfold order? at h
  split at h
  case h_1 m kind =>
    obtain rfl := Option.some.inj h
    rfl
  case h_2 => cases h

theorem health_tick {moved : Bool} (h : u.tick = .ok (u', moved)) : u'.health = u.health := by
  unfold tick at h
  split at h
  case h_1 m kind =>
    split at h
    case isTrue =>
      obtain ⟨rfl, -⟩ := Prod.mk.inj (Except.ok.inj h)
      rfl
    case isFalse =>
      simp only [Checked.bind_eq_ok_iff, Except.ok.injEq, Prod.mk.injEq] at h
      obtain ⟨body, -, rfl, -⟩ := h
      rfl
  case h_2 =>
    obtain ⟨rfl, -⟩ := Prod.mk.inj (Except.ok.inj h)
    rfl

theorem health_harvest {request taken : UInt32} (h : u.harvest? request = some (taken, u')) :
    u'.health = u.health := by
  unfold harvest? at h
  split at h
  case h_1 stock kind =>
    obtain ⟨-, rfl⟩ := Prod.mk.inj (Option.some.inj h)
    rfl
  case h_2 => cases h

theorem isLasting_health : IsLasting health where
  project _ _ := rfl
  place _ _ := rfl
  order := health_order
  tick := health_tick

end GameUnit

/-! ### Options -/

section

variable {α : Type} {R : α → α → Prop} {o o₁ o' : Option α}

theorem rel_refl (refl : ∀ a, R a a) (o : Option α) : Option.Rel R o o := by
  cases o with
  | none => exact .none
  | some a => exact .some (refl a)

theorem rel_trans (trans : ∀ {a b c}, R a b → R b c → R a c) (h₁ : Option.Rel R o o₁)
    (h : Option.Rel R o₁ o') : Option.Rel R o o' := by
  cases h₁ with
  | none => exact h
  | some r₁ =>
    cases h with
    | some r => exact .some (trans r₁ r)

theorem rel_map {f : α → α} (h : ∀ a, R a (f a)) (o : Option α) : Option.Rel R o (o.map f) := by
  cases o with
  | none => exact .none
  | some a => exact .some (h a)

theorem exists_of_rel_some {b : α} (h : Option.Rel R o (some b)) : ∃ a, o = some a ∧ R a b := by
  cases h with
  | some r => exact ⟨_, rfl, r⟩

theorem map_eq_of_rel {β : Type} {f : α → β} (same : ∀ a b, R a b → f b = f a)
    (h : Option.Rel R o o') : o'.map f = o.map f := by
  cases h with
  | none => rfl
  | some r => exact congrArg some (same _ _ r)

theorem isSome_of_rel (h : Option.Rel R o o') : o'.isSome = o.isSome := by
  cases h <;> rfl

end

/-! ### Rosters -/

namespace Roster

variable {β : Type} {f : GameUnit → β} {r r₁ r' : Roster} {id : EntityId} {u u' : GameUnit}
  {p p' : Particle}

/-- Two rosters own the same entities, and the units have the same features. -/
structure Keeps (f : GameUnit → β) (r r' : Roster) : Prop where
  next : r'.next = r.next
  unit : ∀ id, (r'.unit? id).map f = (r.unit? id).map f
  particle : ∀ id, (r'.particle? id).isSome = (r.particle? id).isSome

namespace Keeps

theorem refl (f : GameUnit → β) (r : Roster) : Keeps f r r := ⟨rfl, fun _ => rfl, fun _ => rfl⟩

theorem isSome_unit (h : Keeps f r r') (id : EntityId) :
    (r'.unit? id).isSome = (r.unit? id).isSome := by
  rw [← Option.isSome_map (f := f), h.unit, Option.isSome_map]

/-- An owned unit changes, but not its feature. -/
theorem setUnit (found : r.unit? u'.id = some u) (same : f u' = f u) :
    Keeps f r (r.setUnit u') where
  next := rfl
  unit id := by
    rw [unit?_setUnit]
    split
    case isTrue eq => rw [eq, found, Option.map_some, Option.map_some, same]
    case isFalse => rfl
  particle _ := rfl

end Keeps

/-- A roster owns what has become of the entities of another one. -/
structure Evolves (r r' : Roster) : Prop where
  next : r'.next = r.next
  unit : ∀ id, Option.Rel GameUnit.Becomes (r.unit? id) (r'.unit? id)
  particle : ∀ id, Option.Rel Particle.Becomes (r.particle? id) (r'.particle? id)

namespace Evolves

theorem refl (r : Roster) : r.Evolves r where
  next := rfl
  unit _ := rel_refl (fun _ => .refl) _
  particle _ := rel_refl .refl _

theorem trans (h₁ : r.Evolves r₁) (h : r₁.Evolves r') : r.Evolves r' where
  next := h.next.trans h₁.next
  unit id := rel_trans .trans (h₁.unit id) (h.unit id)
  particle id := rel_trans .trans (h₁.particle id) (h.particle id)

theorem keeps (h : r.Evolves r') (lasting : GameUnit.IsLasting f) : r.Keeps f r' where
  next := h.next
  unit id := map_eq_of_rel (fun _ _ => lasting.becomes) (h.unit id)
  particle id := isSome_of_rel (h.particle id)

/-- Something becomes of an owned unit. -/
theorem setUnit (found : r.unit? u'.id = some u) (becomes : u.Becomes u') :
    r.Evolves (r.setUnit u') where
  next := rfl
  unit id := by
    rw [unit?_setUnit]
    split
    case isTrue eq =>
      rw [eq, found]
      exact .some becomes
    case isFalse => exact rel_refl (fun _ => .refl) _
  particle _ := rel_refl .refl _

/-- Something becomes of an owned particle. -/
theorem setParticle (found : r.particle? p'.id = some p) (becomes : p.Becomes p') :
    r.Evolves (r.setParticle p') where
  next := rfl
  unit _ := rel_refl (fun _ => .refl) _
  particle id := by
    rw [particle?_setParticle]
    split
    case isTrue eq =>
      rw [eq, found]
      exact .some becomes
    case isFalse => exact rel_refl .refl _

end Evolves

theorem unit?_removeUnit (r : Roster) (id id' : EntityId) :
    (r.removeUnit id).unit? id' = if id' = id then none else r.unit? id' :=
  EntityId.getElem?_erase r.units

theorem particle?_removeParticle (r : Roster) (id id' : EntityId) :
    (r.removeParticle id).particle? id' = if id' = id then none else r.particle? id' :=
  EntityId.getElem?_erase r.particles

@[simp]
theorem particle?_removeUnit (r : Roster) (id id' : EntityId) :
    (r.removeUnit id).particle? id' = r.particle? id' := rfl

@[simp]
theorem unit?_removeParticle (r : Roster) (id id' : EntityId) :
    (r.removeParticle id).unit? id' = r.unit? id' := rfl

/-- The roster after it has handed out an id. -/
def issued (r : Roster) : Roster := { r with next := r.next + 1 }

theorem of_issue (h : r.issue = .ok (id, r')) :
    r.next.toNat + 1 < UInt32.size ∧ id = ⟨r.next⟩ ∧ r' = r.issued := by
  unfold issue at h
  split at h
  case isTrue room =>
    obtain ⟨rfl, rfl⟩ := Prod.mk.inj (Except.ok.inj h)
    exact ⟨room, rfl, rfl⟩
  case isFalse => cases h

/-- The ids do not start over. -/
theorem toNat_next_issued (room : r.next.toNat + 1 < UInt32.size) :
    r.issued.next.toNat = r.next.toNat + 1 := by
  have one : (1 : UInt32).toNat = 1 := rfl
  rw [issued, UInt32.toNat_add, one, Nat.mod_eq_of_lt room]

end Roster

namespace World

/-- Two worlds own the same entities, whose units have the same features, and select the same. -/
structure Keeps {β : Type} (f : GameUnit → β) (w w' : World) : Prop where
  roster : w.roster.Keeps f w'.roster
  selected : w'.selected = w.selected

/-- A world owns what has become of the entities of another one, and selects the same. -/
structure Evolves (w w' : World) : Prop where
  roster : w.roster.Evolves w'.roster
  selected : w'.selected = w.selected

variable {β : Type} {f : GameUnit → β} {w w₁ w' : World} {id : EntityId} {u u' : GameUnit}
  {p p' : Particle}

theorem Keeps.refl (f : GameUnit → β) (w : World) : w.Keeps f w := ⟨.refl f w.roster, rfl⟩

theorem Evolves.refl (w : World) : w.Evolves w := ⟨.refl w.roster, rfl⟩

theorem Evolves.trans (h₁ : w.Evolves w₁) (h : w₁.Evolves w') : w.Evolves w' :=
  ⟨h₁.roster.trans h.roster, h.selected.trans h₁.selected⟩

theorem Evolves.keeps (h : w.Evolves w') (lasting : GameUnit.IsLasting f) : w.Keeps f w' :=
  ⟨h.roster.keeps lasting, h.selected⟩

/-! ### Spawning and erasing -/

/-- All that spawning a unit can do: the unit that is built under the next id is brought inside the
map and, if the index takes it, owned. -/
theorem settled_of_spawnUnit {build : EntityId → Except Fault GameUnit}
    {spawned : Option EntityId} (spawn : w.spawnUnit build = .ok (spawned, w')) :
    ∃ u fitted u' filed index, w.roster.next.toNat + 1 < UInt32.size ∧
      build ⟨w.roster.next⟩ = .ok u ∧ w.map.clamp u.bounds = .ok fitted ∧
      u' = (u.settle fitted.center).project w.map.view ∧ u'.id = ⟨w.roster.next⟩ ∧
      w.index.put .unit (.ofUnit u') = .ok (filed, index) ∧
      ((filed = true ∧ spawned = some ⟨w.roster.next⟩ ∧
          w' = { w with roster := w.roster.issued.setUnit u', index }) ∨
        filed = false ∧ spawned = none ∧ w' = { w with roster := w.roster.issued }) := by
  simp only [World.spawnUnit, Roster.draftUnit, Checked.bind_eq_ok_iff] at spawn
  obtain ⟨⟨u, roster⟩, ⟨⟨id, r⟩, issued, u₁, built, drafted⟩, fitted, clamped, ⟨filed, index⟩, put,
    spawn⟩ := spawn
  obtain ⟨room, rfl, rfl⟩ := Roster.of_issue issued
  dsimp only at built drafted clamped put spawn
  split at drafted
  case isFalse => cases drafted
  case isTrue own =>
    obtain ⟨rfl, rfl⟩ := Prod.mk.inj (Except.ok.inj drafted)
    have hid : ((u₁.settle fitted.center).project w.map.view).id = ⟨w.roster.next⟩ :=
      (congrArg Entry.id (Entry.ofUnit_settle u₁ fitted.center)).trans own
    refine ⟨u₁, fitted, _, filed, index, room, built, clamped, rfl, hid, put, ?_⟩
    split at spawn
    case isTrue isFiled =>
      obtain ⟨rfl, rfl⟩ := Prod.mk.inj (Except.ok.inj spawn)
      exact .inl ⟨isFiled, congrArg some hid, rfl⟩
    case isFalse refused =>
      obtain ⟨rfl, rfl⟩ := Prod.mk.inj (Except.ok.inj spawn)
      exact .inr ⟨Bool.eq_false_iff.mpr refused, rfl, rfl⟩

/-- All that spawning a unit does to the roster: an id is handed out, and if the unit is filed, what
becomes of it is owned under that id. -/
theorem of_spawnUnit {build : EntityId → Except Fault GameUnit} {spawned : Option EntityId}
    (spawn : w.spawnUnit build = .ok (spawned, w')) :
    ∃ u, w.roster.next.toNat + 1 < UInt32.size ∧ build ⟨w.roster.next⟩ = .ok u ∧
      w'.selected = w.selected ∧
      ((spawned = none ∧ w'.roster = w.roster.issued) ∨
        ∃ u', spawned = some ⟨w.roster.next⟩ ∧ u'.id = ⟨w.roster.next⟩ ∧ u.Becomes u' ∧
          w'.roster = w.roster.issued.setUnit u') := by
  obtain ⟨u, fitted, u', filed, index, room, built, -, rfl, hid, -, result⟩ :=
    settled_of_spawnUnit spawn
  have becomes : u.Becomes ((u.settle fitted.center).project w.map.view) :=
    (GameUnit.Becomes.refl.settle _).project _
  rcases result with ⟨-, spawned, rfl⟩ | ⟨-, none, rfl⟩
  · exact ⟨u, room, built, rfl, .inr ⟨_, spawned, hid, becomes, rfl⟩⟩
  · exact ⟨u, room, built, rfl, .inl ⟨none, rfl⟩⟩

/-- All that spawning a particle does to the roster. -/
theorem of_spawnParticle {build : EntityId → Except Fault Particle} {spawned : Option EntityId}
    (spawn : w.spawnParticle build = .ok (spawned, w')) :
    ∃ p, w.roster.next.toNat + 1 < UInt32.size ∧ build ⟨w.roster.next⟩ = .ok p ∧
      w'.selected = w.selected ∧
      ((spawned = none ∧ w'.roster = w.roster.issued) ∨
        ∃ p', spawned = some ⟨w.roster.next⟩ ∧ p'.id = ⟨w.roster.next⟩ ∧ p.Becomes p' ∧
          w'.roster = w.roster.issued.setParticle p') := by
  simp only [World.spawnParticle, Roster.draftParticle, Checked.bind_eq_ok_iff] at spawn
  obtain ⟨⟨p, roster⟩, ⟨⟨id, r⟩, issued, p₁, built, drafted⟩, fitted, -, spawn⟩ := spawn
  obtain ⟨⟨filed, index⟩, -, spawn⟩ := spawn
  obtain ⟨room, rfl, rfl⟩ := Roster.of_issue issued
  dsimp only at built drafted spawn
  split at drafted
  case isFalse => cases drafted
  case isTrue own =>
    obtain ⟨rfl, rfl⟩ := Prod.mk.inj (Except.ok.inj drafted)
    have hid : (Particle.project w.map.view { p₁ with pos := fitted.center }).id
        = ⟨w.roster.next⟩ := own
    split at spawn
    case isTrue =>
      obtain ⟨rfl, rfl⟩ := Prod.mk.inj (Except.ok.inj spawn)
      exact ⟨p₁, room, built, rfl, .inr ⟨_, congrArg some hid, hid, ⟨_, _, rfl⟩, rfl⟩⟩
    case isFalse =>
      obtain ⟨rfl, rfl⟩ := Prod.mk.inj (Except.ok.inj spawn)
      exact ⟨p₁, room, built, rfl, .inl ⟨rfl, rfl⟩⟩

namespace InStep

/-- All that erasing a unit does to the roster and the selection. -/
theorem of_erase {erased : Bool} (h : w.InStep) (erasure : w.erase id = .ok (erased, w')) :
    erased = (w.unit? id).isSome ∧ w'.roster = w.roster.removeUnit id ∧
      w'.selected = if w.selected = some id then none else w.selected := by
  have roster : (w.deselect id).roster = w.roster := by
    unfold World.deselect
    split <;> rfl
  have selected : (w.deselect id).selected = if w.selected = some id then none else w.selected := by
    unfold World.deselect
    split <;> rfl
  obtain ⟨index, done, -⟩ := (h.deselect id).sound.erase .unit id
  rw [(h.deselect id).lookup?, roster, Roster.owned?, Option.isSome_map] at done
  rw [World.erase, done, Checked.ok_bind] at erasure
  obtain ⟨rfl, rfl⟩ := Prod.mk.inj (Except.ok.inj erasure)
  refine ⟨?_, congrArg (Roster.removeUnit id) roster, selected⟩
  rw [World.unit?, roster, Bool.or_self, World.unit?]

/-- All that erasing a particle does to the roster. -/
theorem of_eraseParticle {erased : Bool} (h : w.InStep)
    (erasure : w.eraseParticle id = .ok (erased, w')) :
    erased = (w.particle? id).isSome ∧ w'.roster = w.roster.removeParticle id ∧
      w'.selected = w.selected := by
  obtain ⟨index, done, -⟩ := h.sound.erase .particle id
  rw [h.lookup?, Roster.owned?, Option.isSome_map] at done
  rw [World.eraseParticle, done, Checked.ok_bind] at erasure
  obtain ⟨rfl, rfl⟩ := Prod.mk.inj (Except.ok.inj erasure)
  refine ⟨?_, rfl, rfl⟩
  rw [World.particle?, Bool.or_self]

/-! ### Orders and effects -/

/-- An owned unit is put in the place of itself. -/
theorem keeps_setUnit (h : w.InStep) (index : Quadtree) (found : w.unit? id = some u)
    (hid : u'.id = u.id) (same : f u' = f u) :
    w.Keeps f { w with roster := w.roster.setUnit u', index } := by
  rw [← h.unit_id found, ← hid] at found
  exact ⟨.setUnit found same, rfl⟩

/-- What has become of an owned unit is put in its place. -/
theorem evolves_setUnit (h : w.InStep) (index : Quadtree) (found : w.unit? id = some u)
    (hid : u'.id = u.id) (becomes : u.Becomes u') :
    w.Evolves { w with roster := w.roster.setUnit u', index } := by
  rw [← h.unit_id found, ← hid] at found
  exact ⟨.setUnit found becomes, rfl⟩

theorem evolves_moveUnit {target shift : Point} {ordered : Bool} (h : w.InStep)
    (order : w.moveUnit id target shift = .ok (ordered, w')) : w.Evolves w' := by
  rcases of_moveUnit order with rfl | ⟨u, u', aim, found, accepted, rfl⟩
  · exact .refl w'
  · exact h.evolves_setUnit w.index found (congrArg Entry.id (Entry.ofUnit_order accepted))
      (GameUnit.Becomes.refl.order accepted)

theorem evolves_relocate {target : Point} {filed : Bool} (h : w.InStep)
    (relocation : w.relocate id target = .ok (filed, w')) : w.Evolves w' := by
  rcases of_relocate relocation with rfl | ⟨u, _, fitted, index, found, -, rfl, -, rfl⟩
  · exact .refl w'
  · exact h.evolves_setUnit index found rfl ((GameUnit.Becomes.refl.place _).project _)

theorem evolves_relocateParticle {target : Point} {filed : Bool} (h : w.InStep)
    (relocation : w.relocateParticle id target = .ok (filed, w')) : w.Evolves w' := by
  rcases of_relocateParticle relocation with rfl | ⟨p, _, fitted, index, found, -, rfl, -, rfl⟩
  · exact .refl w'
  · rw [← h.particle_id found] at found
    exact ⟨.setParticle found ⟨_, _, rfl⟩, rfl⟩

/-- Damage keeps every feature that a wound does not change. -/
theorem keeps_damage (h : w.InStep) (amount : UInt32)
    (same : ∀ u : GameUnit, f (u.damage amount) = f u) (id : EntityId) :
    w.Keeps f (w.damage id amount).2 := by
  rcases of_damage w id amount with eq | ⟨u, found, eq⟩ <;> rw [eq]
  · exact .refl f w
  · exact h.keeps_setUnit w.index found rfl (same u)

/-- Harvesting keeps every feature that the stock does not change. -/
theorem keeps_harvest (h : w.InStep) (request : UInt32)
    (same : ∀ {u u' : GameUnit} {taken}, u.harvest? request = some (taken, u') → f u' = f u)
    (id : EntityId) : w.Keeps f (w.harvest id request).2 := by
  rcases of_harvest w id request with eq | ⟨u, u', taken, found, harvested, eq⟩ <;> rw [eq]
  · exact .refl f w
  · exact h.keeps_setUnit w.index found (congrArg Entry.id (Entry.ofUnit_harvest harvested))
      (same harvested)

/-! ### Looking -/

theorem evolves_rebuildIndex (rebuilt : w.rebuildIndex = .ok w') : w.Evolves w' := by
  simp only [World.rebuildIndex, Checked.bind_eq_ok_iff, Except.ok.injEq] at rebuilt
  obtain ⟨index, -, rfl⟩ := rebuilt
  exact ⟨.refl w.roster, rfl⟩

/-- A click refreshes units, and selects a unit or nothing. -/
theorem of_selectAt {screen : Point} (h : w.InStep) (selection : w.selectAt screen = .ok w') :
    w.roster.Evolves w'.roster ∧ ∀ id, w'.selected = some id → (w'.unit? id).isSome := by
  simp only [World.selectAt, Checked.bind_eq_ok_iff, Except.ok.injEq] at selection
  obtain ⟨candidates, -, rfl⟩ := selection
  have considered := considered_foldl w.map.view screen h.keyed.unit candidates
  have evolves : w.roster.Evolves
      (candidates.foldl (consider w.map.view screen) (none, w.roster)).2 := by
    refine ⟨considered.next, ?_, ?_⟩
    · intro id
      rw [considered.unit?]
      split
      case isTrue => exact rel_map (fun _ => .project _ .refl) _
      case isFalse => exact rel_refl (fun _ => .refl) _
    · intro id
      rw [Roster.particle?, Roster.particle?, considered.particles]
      exact rel_refl .refl _
  refine ⟨evolves, ?_⟩
  intro id selected
  have latest := considered.latest
  dsimp only at selected
  rw [selected] at latest
  obtain ⟨-, u, found, -⟩ := latest.1
  have owned := isSome_of_rel (evolves.unit id)
  rw [World.unit?, owned, found, Option.isSome_some]

/-! ### Frames -/

theorem evolves_tickUnit {moved : Bool} (h : w.InStep) (found : w.unit? id = some u)
    (ticked : w.tickUnit u = .ok (moved, w')) : w.Evolves w' := by
  obtain ⟨u', index, turn, rfl⟩ := of_tickUnit ticked
  exact h.evolves_setUnit index found (GameUnit.id_turn turn) (GameUnit.becomes_turn turn)

theorem evolves_tick {t : Ticking} (h : w.InStep) (ticked : w.tick = .ok t) :
    w.Evolves t.world := by
  refine (tick_induction (P := fun w' => w'.InStep ∧ w.Evolves w') ⟨h, .refl w⟩ ticked ?_).2
  intro w₁ w' id u moved so_far found ticked
  obtain ⟨h₁, evolves⟩ := so_far
  exact ⟨h₁.tickUnit found ticked, evolves.trans (h₁.evolves_tickUnit found ticked)⟩

theorem evolves_of_projected {roster : Roster} (h : Projected w.map.view w.roster roster) :
    w.Evolves { w with roster } where
  selected := rfl
  roster.next := h.next
  roster.unit id := by
    dsimp only
    rw [h.unit?]
    refine rel_map (fun u => ?_) _
    split
    case isTrue => exact .project _ .refl
    case isFalse => exact .refl
  roster.particle id := by
    dsimp only
    rw [h.particle?]
    refine rel_map (fun p => ?_) _
    split
    case isTrue => exact p.becomes_project _
    case isFalse => exact .refl p

theorem evolves_cull {list : DrawList} (h : w.InStep) (culled : w.cull = .ok (list, w')) :
    w.Evolves w' := by
  obtain ⟨roster, done, projected⟩ := h.exists_cull
  obtain ⟨-, rfl⟩ := Prod.mk.inj (Except.ok.inj (done.symm.trans culled))
  exact evolves_of_projected projected

theorem evolves_frame {framed : Framed} (h : w.InStep) (shown : w.frame = .ok framed) :
    w.Evolves framed.world := by
  simp only [World.frame, Checked.bind_eq_ok_iff, Except.ok.injEq] at shown
  obtain ⟨t, ticked, ⟨list, world⟩, culled, rfl⟩ := shown
  exact (h.evolves_tick ticked).trans ((h.tick ticked).evolves_cull culled)

end InStep

end World

end Skirmish
