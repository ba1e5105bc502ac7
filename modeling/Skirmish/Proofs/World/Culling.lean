import Mathlib.Data.List.Induction
import Skirmish.Proofs.World.InStep

/-!
# What a viewport shows

The entities in view are found by looking at every owned entity.  The index gives the same ones, in
the same order, and refreshing them one after the other refreshes each of them once.

## Main definitions

* `Roster.particlesIn`, `Roster.unitsIn` — the owned entities that meet a region, by ascending id.
* `Roster.liveIn`, `Roster.deadIn` — the living and the dead ones of these units.
* `World.Refreshed`, `World.Culled` — what culling comes to after some particles and some units.
* `World.inView` — what is to be drawn, found without the index.
* `World.Projected` — a roster with fresh screen boxes of what is drawn.

## Main results

* `InStep.query_particle`, `InStep.query_unit` — a query lists the ids of the entities that meet the
  region.
* `World.refreshed_foldl`, `World.culled_foldl` — what culling comes to.
* `InStep.exists_cull` — culling finds what is in view.
-/

namespace Skirmish

/-! ### The values of a table -/

namespace EntityId

variable {α : Type} {t : Table α} {key : α → EntityId} {a : α}

/-- The values of a table whose keys can be read off its values. -/
theorem mem_values (keyed : ∀ {id a}, t[id]? = some a → key a = id) :
    a ∈ t.toList.map Prod.snd ↔ t[key a]? = some a := by
  constructor
  · intro mem
    obtain ⟨⟨id, a'⟩, listed, rfl⟩ := List.mem_map.mp mem
    have found : t[id]? = some a' := Std.ExtTreeMap.mem_toList_iff_getElem?_eq_some.mp listed
    rwa [keyed found]
  · intro found
    exact List.mem_map.mpr ⟨(key a, a), Std.ExtTreeMap.mem_toList_iff_getElem?_eq_some.mpr found, rfl⟩

/-- They are listed in the order of the keys. -/
theorem ascending_values (keyed : ∀ {id a}, t[id]? = some a → key a = id) :
    Ascending ((t.toList.map Prod.snd).map key) := by
  have keys : (t.toList.map Prod.snd).map key = t.keys := by
    rw [← Std.ExtTreeMap.map_fst_toList_eq_keys, List.map_map]
    refine List.map_congr_left ?_
    rintro ⟨id, a⟩ mem
    exact keyed (Std.ExtTreeMap.mem_toList_iff_getElem?_eq_some.mp mem)
  rw [keys]
  exact ascending_keys t

end EntityId

/-! ### The entities in a region -/

namespace Roster

/-- The owned particles that meet a region, in the order of their ids. -/
def particlesIn (region : Box) (r : Roster) : List Particle :=
  (r.particles.toList.map Prod.snd).filter fun p => decide (p.bounds.Meets region)

/-- The owned units that meet a region, in the order of their ids. -/
def unitsIn (region : Box) (r : Roster) : List GameUnit :=
  (r.units.toList.map Prod.snd).filter fun u => decide (u.bounds.Meets region)

/-- The living units that meet a region. -/
def liveIn (region : Box) (r : Roster) : List GameUnit :=
  (r.unitsIn region).filter fun u => !u.isDead

/-- The dead units that meet a region. -/
def deadIn (region : Box) (r : Roster) : List GameUnit :=
  (r.unitsIn region).filter GameUnit.isDead

/-- Every entity is owned under its own id. -/
structure Keyed (r : Roster) : Prop where
  unit : ∀ {id u}, r.unit? id = some u → u.id = id
  particle : ∀ {id p}, r.particle? id = some p → p.id = id

variable {r : Roster} {region : Box} {u : GameUnit} {p : Particle}

theorem Keyed.mem_particlesIn (h : r.Keyed) :
    p ∈ r.particlesIn region ↔ r.particle? p.id = some p ∧ p.bounds.Meets region := by
  rw [particlesIn, List.mem_filter, EntityId.mem_values h.particle, decide_eq_true_iff, particle?]

theorem Keyed.mem_unitsIn (h : r.Keyed) :
    u ∈ r.unitsIn region ↔ r.unit? u.id = some u ∧ u.bounds.Meets region := by
  rw [unitsIn, List.mem_filter, EntityId.mem_values h.unit, decide_eq_true_iff, unit?]

/-- An owned particle is listed when it meets the region. -/
theorem Keyed.id_mem_particlesIn (h : r.Keyed) {id : EntityId} (found : r.particle? id = some p) :
    id ∈ (r.particlesIn region).map Particle.id ↔ p.bounds.Meets region := by
  obtain rfl := h.particle found
  constructor
  · intro mem
    obtain ⟨p', mem, eq⟩ := List.mem_map.mp mem
    obtain ⟨found', meets⟩ := h.mem_particlesIn.mp mem
    rw [eq, found] at found'
    rwa [Option.some.inj found']
  · intro meets
    exact List.mem_map.mpr ⟨p, h.mem_particlesIn.mpr ⟨found, meets⟩, rfl⟩

/-- An owned unit is listed when it meets the region. -/
theorem Keyed.id_mem_unitsIn (h : r.Keyed) {id : EntityId} (found : r.unit? id = some u) :
    id ∈ (r.unitsIn region).map GameUnit.id ↔ u.bounds.Meets region := by
  obtain rfl := h.unit found
  constructor
  · intro mem
    obtain ⟨u', mem, eq⟩ := List.mem_map.mp mem
    obtain ⟨found', meets⟩ := h.mem_unitsIn.mp mem
    rw [eq, found] at found'
    rwa [Option.some.inj found']
  · intro meets
    exact List.mem_map.mpr ⟨u, h.mem_unitsIn.mpr ⟨found, meets⟩, rfl⟩

theorem Keyed.mem_liveIn (h : r.Keyed) : u ∈ r.liveIn region ↔
    r.unit? u.id = some u ∧ u.bounds.Meets region ∧ ¬ u.isDead := by
  rw [liveIn, List.mem_filter, h.mem_unitsIn, and_assoc, Bool.not_eq_true', Bool.not_eq_true]

theorem Keyed.mem_deadIn (h : r.Keyed) : u ∈ r.deadIn region ↔
    r.unit? u.id = some u ∧ u.bounds.Meets region ∧ u.isDead := by
  rw [deadIn, List.mem_filter, h.mem_unitsIn, and_assoc]

theorem Keyed.ascending_particlesIn (h : r.Keyed) :
    EntityId.Ascending ((r.particlesIn region).map Particle.id) :=
  List.Pairwise.sublist (List.filter_sublist.map _) (EntityId.ascending_values h.particle)

theorem Keyed.ascending_unitsIn (h : r.Keyed) :
    EntityId.Ascending ((r.unitsIn region).map GameUnit.id) :=
  List.Pairwise.sublist (List.filter_sublist.map _) (EntityId.ascending_values h.unit)

theorem Keyed.ascending_liveIn (h : r.Keyed) :
    EntityId.Ascending ((r.liveIn region).map GameUnit.id) :=
  List.Pairwise.sublist (List.filter_sublist.map _) h.ascending_unitsIn

theorem Keyed.ascending_deadIn (h : r.Keyed) :
    EntityId.Ascending ((r.deadIn region).map GameUnit.id) :=
  List.Pairwise.sublist (List.filter_sublist.map _) h.ascending_unitsIn

theorem particle?_setParticle (r : Roster) (p : Particle) {id : EntityId} :
    (r.setParticle p).particle? id = if id = p.id then some p else r.particle? id :=
  EntityId.getElem?_insert r.particles p

end Roster

namespace World

/-! ### Queries -/

section

variable {w : World}

theorem InStep.keyed (h : w.InStep) : w.roster.Keyed := ⟨h.unit_id, h.particle_id⟩

/-- A query lists the ids of the particles that meet the region. -/
theorem InStep.query_particle (h : w.InStep) (region : Box) :
    w.query .particle region = .ok ((w.roster.particlesIn region).map Particle.id) := by
  obtain ⟨ids, listed, ascending, mem⟩ := h.query .particle region
  rw [listed, ascending.eq_of_mem_iff h.keyed.ascending_particlesIn]
  intro id
  simp only [mem, List.mem_map, h.keyed.mem_particlesIn, Roster.owned?, Option.map_eq_some_iff]
  constructor
  · rintro ⟨e, ⟨p, found, rfl⟩, meets⟩
    obtain rfl := h.keyed.particle found
    exact ⟨p, ⟨found, meets⟩, rfl⟩
  · rintro ⟨p, ⟨found, meets⟩, rfl⟩
    exact ⟨.ofParticle p, ⟨p, found, rfl⟩, meets⟩

/-- A query lists the ids of the units that meet the region. -/
theorem InStep.query_unit (h : w.InStep) (region : Box) :
    w.query .unit region = .ok ((w.roster.unitsIn region).map GameUnit.id) := by
  obtain ⟨ids, listed, ascending, mem⟩ := h.query .unit region
  rw [listed, ascending.eq_of_mem_iff h.keyed.ascending_unitsIn]
  intro id
  simp only [mem, List.mem_map, h.keyed.mem_unitsIn, Roster.owned?, Option.map_eq_some_iff]
  constructor
  · rintro ⟨e, ⟨u, found, rfl⟩, meets⟩
    obtain rfl := h.keyed.unit found
    exact ⟨u, ⟨found, meets⟩, rfl⟩
  · rintro ⟨u, ⟨found, meets⟩, rfl⟩
    exact ⟨.ofUnit u, ⟨u, found, rfl⟩, meets⟩

end

/-! ### Refreshing -/

section

variable {view : Viewport} {ids : List EntityId} {r : Roster} {id id' : EntityId}

/-- The particles after one of them has been projected. -/
theorem particle?_projectParticle (keyed : r.Keyed) :
    (projectParticle view r id).particle? id'
      = (r.particle? id').map fun p => if id' = id then p.project view else p := by
  unfold projectParticle
  split
  case h_1 p found =>
    rw [Roster.particle?_setParticle, Particle.id_project, keyed.particle found]
    split
    case isTrue eq => rw [eq, found, Option.map_some]
    case isFalse => rw [Option.map_id']
  case h_2 missing =>
    split
    case isTrue eq => rw [eq, missing, Option.map_none]
    case isFalse => rw [Option.map_id']

theorem units_projectParticle : (projectParticle view r id).units = r.units := by
  unfold projectParticle
  split <;> rfl

theorem next_projectParticle : (projectParticle view r id).next = r.next := by
  unfold projectParticle
  split <;> rfl

theorem keyed_projectParticle (keyed : r.Keyed) (view : Viewport) (id : EntityId) :
    (projectParticle view r id).Keyed where
  unit {id' u} found := by
    rw [Roster.unit?, units_projectParticle] at found
    exact keyed.unit found
  particle {id' p} found := by
    rw [particle?_projectParticle keyed, Option.map_eq_some_iff] at found
    obtain ⟨p, found, rfl⟩ := found
    have hid := keyed.particle found
    split <;> exact hid

/-- A roster with the screen boxes of some particles computed anew. -/
structure Refreshed (view : Viewport) (ids : List EntityId) (r r' : Roster) : Prop where
  particle? : ∀ id, r'.particle? id
    = (r.particle? id).map fun p => if id ∈ ids then p.project view else p
  units : r'.units = r.units
  next : r'.next = r.next

theorem Refreshed.unit? {r' : Roster} (h : Refreshed view ids r r') (id : EntityId) :
    r'.unit? id = r.unit? id := by
  rw [Roster.unit?, h.units, Roster.unit?]

theorem Refreshed.keyed {r' : Roster} (h : Refreshed view ids r r') (keyed : r.Keyed) :
    r'.Keyed where
  unit {id u} found := keyed.unit ((h.unit? id).symm.trans found)
  particle {id p} found := by
    rw [h.particle?, Option.map_eq_some_iff] at found
    obtain ⟨p, found, rfl⟩ := found
    have hid := keyed.particle found
    split <;> exact hid

/-- Particles projected one after the other. -/
theorem refreshed_foldl (view : Viewport) (keyed : r.Keyed) (ids : List EntityId) :
    Refreshed view ids r (ids.foldl (projectParticle view) r) := by
  induction ids generalizing r with
  | nil => exact ⟨fun id => by simp, rfl, rfl⟩
  | cons first ids ih =>
    obtain ⟨particle?, units, next⟩ := ih (keyed_projectParticle keyed view first)
    refine ⟨?_, units.trans units_projectParticle, next.trans next_projectParticle⟩
    intro id
    rw [List.foldl_cons, particle?, particle?_projectParticle keyed, Option.map_map]
    refine Option.map_congr ?_
    intro p _
    -- projecting again changes nothing
    have again : (p.project view).project view = p.project view := rfl
    by_cases eq : id = first <;> by_cases mem : id ∈ ids <;> simp [eq, mem, again]

/-- What culling comes to after some units in view: the live ones are listed, the last one first,
and their screen boxes are fresh; the dead ones are counted. -/
structure Culled (view : Viewport) (ids : List EntityId) (r : Roster) (state : Culling) :
    Prop where
  units : state.units.reverse = ids.filter fun id => (r.unit? id).any fun u => !u.isDead
  dead : state.dead = ids.countP fun id => (r.unit? id).any GameUnit.isDead
  unit? : ∀ id, state.roster.unit? id
    = (r.unit? id).map fun u => if id ∈ ids ∧ ¬ u.isDead then u.project view else u
  particles : state.roster.particles = r.particles
  next : state.roster.next = r.next

variable {state : Culling} {u : GameUnit}

/-- A unit on the way of culling looks like the unit that it was before, but for its screen box. -/
theorem Culled.exists_project (h : Culled view ids r state) (held : r.unit? id = some u) :
    ∃ u', state.roster.unit? id = some u' ∧ u'.id = u.id ∧ u'.isDead = u.isDead ∧
      u'.project view = u.project view := by
  rw [h.unit?, held, Option.map_some]
  split
  case isTrue => exact ⟨u.project view, rfl, rfl, rfl, rfl⟩
  case isFalse => exact ⟨u, rfl, rfl, rfl, rfl⟩

/-- One more unit in view. -/
theorem Culled.step (keyed : r.Keyed) (h : Culled view ids r state) (id : EntityId) :
    Culled view (ids ++ [id]) r (Culling.step view state id) := by
  have mem {id' : EntityId} : id' ∈ ids ++ [id] ↔ id' ∈ ids ∨ id' = id := by simp
  unfold Culling.step
  cases held : r.unit? id with
  | none =>
    have missing : state.roster.unit? id = none := by rw [h.unit?, held, Option.map_none]
    rw [missing]
    refine ⟨?_, ?_, ?_, h.particles, h.next⟩
    · rw [h.units, List.filter_append, List.filter_singleton, held]
      simp
    · rw [h.dead, List.countP_append, List.countP_singleton, held]
      simp
    · intro id'
      rw [h.unit?]
      by_cases eq : id' = id
      · rw [eq, held, Option.map_none, Option.map_none]
      · simp only [mem, eq, or_false]
  | some u =>
    obtain ⟨u', found, hid, dead, project⟩ := h.exists_project held
    rw [found]
    dsimp only
    split
    case isTrue isDead =>
      rw [dead] at isDead
      refine ⟨?_, ?_, ?_, h.particles, h.next⟩
      · rw [h.units, List.filter_append, List.filter_singleton, held]
        simp [isDead]
      · rw [h.dead, List.countP_append, List.countP_singleton, held]
        simp [isDead]
      · intro id'
        rw [h.unit?]
        by_cases eq : id' = id
        · simp [eq, held, isDead]
        · simp only [mem, eq, or_false]
    case isFalse isLive =>
      rw [dead] at isLive
      refine ⟨?_, ?_, ?_, h.particles, h.next⟩
      · rw [List.reverse_cons, h.units, List.filter_append, List.filter_singleton, held]
        simp [isLive]
      · rw [h.dead, List.countP_append, List.countP_singleton, held]
        simp [isLive]
      · intro id'
        rw [Roster.unit?_setUnit, GameUnit.id_project, hid, keyed.unit held, h.unit?]
        by_cases eq : id' = id
        · simp [eq, held, isLive, project]
        · simp only [mem, eq, or_false, if_false]

/-- All units in view. -/
theorem culled_foldl (view : Viewport) (keyed : r.Keyed) (ids : List EntityId) :
    Culled view ids r (ids.foldl (Culling.step view) ⟨[], 0, r⟩) := by
  induction ids using List.reverseRecOn with
  | nil => exact ⟨rfl, rfl, fun id => by simp, rfl, rfl⟩
  | append_singleton ids id ih =>
    rw [List.foldl_append, List.foldl_cons, List.foldl_nil]
    exact ih.step keyed id

end

/-! ### Culling -/

/-- What the viewport shows, found by looking at every owned entity. -/
def inView (w : World) : DrawList :=
  let region := w.map.view.box
  { particles := (w.roster.particlesIn region).map Particle.id
    units := (w.roster.liveIn region).map GameUnit.id
    deadCulled := (w.roster.deadIn region).length }

/-- A roster with the screen boxes of what is drawn computed anew. -/
structure Projected (view : Viewport) (r r' : Roster) : Prop where
  particle? : ∀ id, r'.particle? id
    = (r.particle? id).map fun p => if p.bounds.Meets view.box then p.project view else p
  unit? : ∀ id, r'.unit? id
    = (r.unit? id).map fun u => if u.bounds.Meets view.box ∧ ¬ u.isDead then u.project view else u
  next : r'.next = r.next

/-- Culling finds what is in view, and computes the screen boxes of it anew. -/
theorem InStep.exists_cull {w : World} (h : w.InStep) :
    ∃ roster, w.cull = .ok (w.inView, { w with roster }) ∧
      Projected w.map.view w.roster roster := by
  have keyed := h.keyed
  rw [World.cull, h.query_particle, Checked.ok_bind, h.query_unit, Checked.ok_bind]
  have refreshed := refreshed_foldl w.map.view keyed
    ((w.roster.particlesIn w.map.view.box).map Particle.id)
  generalize List.foldl (projectParticle w.map.view) w.roster _ = r₁ at refreshed ⊢
  have culled := culled_foldl w.map.view (refreshed.keyed keyed)
    ((w.roster.unitsIn w.map.view.box).map GameUnit.id)
  generalize List.foldl (Culling.step w.map.view) _ _ = state at culled ⊢
  have held {u : GameUnit} (mem : u ∈ w.roster.unitsIn w.map.view.box) :
      r₁.unit? u.id = some u := by
    rw [refreshed.unit?]
    exact (keyed.mem_unitsIn.mp mem).1
  have units : state.units.reverse = w.inView.units := by
    rw [culled.units, List.filter_map, inView, Roster.liveIn]
    refine congrArg (List.map GameUnit.id) (List.filter_congr ?_)
    intro u mem
    rw [Function.comp_apply, held mem, Option.any_some]
  have dead : state.dead = w.inView.deadCulled := by
    rw [culled.dead, List.countP_map, inView, Roster.deadIn, ← List.countP_eq_length_filter]
    refine List.countP_congr ?_
    intro u mem
    rw [Function.comp_apply, held mem, Option.any_some]
  refine ⟨state.roster, ?_, ?_, ?_, culled.next.trans refreshed.next⟩
  · dsimp only
    rw [units, dead]
    rfl
  · intro id
    rw [Roster.particle?, culled.particles]
    refine (refreshed.particle? id).trans (Option.map_congr ?_)
    intro p found
    simp only [keyed.id_mem_particlesIn found]
  · intro id
    rw [culled.unit?, refreshed.unit?]
    refine Option.map_congr ?_
    intro u found
    simp only [keyed.id_mem_unitsIn found]

end World

end Skirmish
