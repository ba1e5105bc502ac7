import Skirmish.Proofs.Entity.Showing
import Skirmish.Proofs.World.Frame
import Skirmish.Proofs.World.Health

/-!
# The sprites of a frame

Every sprite that a frame draws is a frame of the set that it names, or frame zero of an empty set.
For the entities are displayable when they are made, whatever was done to them, and no operation of
a world does anything else to them: they are put elsewhere, they tick, and what they show follows
from what they have shown.

## Main definitions

* `GameUnit.Made`, `Particle.Made` — an entity that was made in one of the ways there are, after
  whatever was done to it.
* `World.Displayable` — a world that owns displayable entities only.
* `World.ShownBy` — the frame set that a sprite names, at the entity that it is drawn for.

## Main results

* `GameUnit.Becomes.displayable` — what becomes of a displayable unit is displayable.
* `Displayable.perform`, `ReachableBy.displayable` — one operation, and every world that is reached.
* `Displayable.exists_shownBy` — a sprite of a displayable world.
* `World.displayable_of_made` — entities by themselves, and the frames of worlds that own them.
-/

namespace Skirmish

/-! ### Entities -/

theorem UnitPreset.displayable_build (id : EntityId) (preset : UnitPreset) :
    (preset.build id).Displayable := by
  cases preset with
  | building pos kind color =>
    refine ⟨FrameSet.admits_zero _, fun o overlay => ?_⟩
    obtain rfl := UnitKind.building.inj overlay
    exact FrameSet.admits_zero _
  | villager | resource | resourceNode | mobile => exact .of_body (FrameSet.admits_zero _) nofun

/-- A unit that was made from a preset, after whatever was done to it. -/
def GameUnit.Made (u : GameUnit) : Prop :=
  ∃ (preset : UnitPreset) (id : EntityId) (deeds : List Deed), act deeds (preset.build id) = .ok u

/-- A particle of any look, after whatever was done to it. -/
def Particle.Made (p : Particle) : Prop :=
  ∃ id pos footprint frames color shift deeds,
    act deeds (create id pos footprint frames color shift) = .ok p

theorem GameUnit.Made.displayable {u : GameUnit} (h : u.Made) : u.Displayable := by
  obtain ⟨preset, id, deeds, done⟩ := h
  obtain ⟨u', done', shown⟩ := (preset.displayable_build id).exists_act deeds
  exact Except.ok.inj (done'.symm.trans done) ▸ shown

theorem Particle.Made.displayable {p : Particle} (h : p.Made) : p.Displayable := by
  obtain ⟨id, pos, footprint, frames, color, shift, deeds, done⟩ := h
  obtain ⟨p', done', shown⟩ :=
    (displayable_create id pos footprint frames color shift).exists_act deeds
  exact Except.ok.inj (done'.symm.trans done) ▸ shown

theorem GameUnit.Becomes.displayable {u u' : GameUnit} (h : u.Becomes u') (shown : u.Displayable) :
    u'.Displayable := by
  induction h with
  | refl => exact shown
  | project v _ ih => exact ih.project v
  | place pos _ ih => exact ih.place pos
  | order _ ordered ih => exact ih.order ordered
  | tick _ ticked ih =>
    obtain ⟨u₁, moved, ticked', shown⟩ := ih.exists_tick
    obtain ⟨rfl, -⟩ := Prod.mk.inj (Except.ok.inj (ticked'.symm.trans ticked))
    exact shown

theorem Particle.Becomes.displayable {p p' : Particle} (h : p.Becomes p') (shown : p.Displayable) :
    p'.Displayable := by
  obtain ⟨pos, screen, rfl⟩ := h
  exact shown

namespace World

variable {w w' : World} {op : Op} {reply : Option Reply}

/-! ### Worlds -/

/-- An operation that spawns no entities but such as are made. -/
def Op.SpawnsMade : Op → Prop
  | spawnUnit build => ∀ id u, build id = .ok u → u.Made
  | spawnParticle build => ∀ id p, build id = .ok p → p.Made
  | _ => True

/-- A world that owns displayable entities only. -/
structure Displayable (w : World) : Prop where
  inStep : w.InStep
  unit : ∀ id u, w.unit? id = some u → u.Displayable
  particle : ∀ id p, w.particle? id = some p → p.Displayable

theorem Displayable.perform (h : w.Displayable) (made : op.SpawnsMade)
    (performed : op.perform w = .ok (reply, w')) : w'.Displayable := by
  have fates := h.inStep.fates performed
  refine ⟨h.inStep.perform performed, fun id u' found => ?_, fun id p' found => ?_⟩
  · have fate := fates.unit id
    rw [found] at fate
    cases fate with
    | kept _ rel =>
      obtain ⟨u, owned, becomes⟩ := exists_of_rel_some rel
      exact becomes.displayable (h.unit id u owned)
    | born _ built becomes eq =>
      obtain rfl := Option.some.inj eq
      exact becomes.displayable (made _ _ built).displayable
    | erased none => cases none
    | damaged eq =>
      obtain ⟨u, owned, rfl⟩ := Option.map_eq_some_iff.mp eq.symm
      exact (h.unit id u owned).damage _
    | harvested _ eq =>
      obtain ⟨u, owned, rfl⟩ := Option.map_eq_some_iff.mp eq.symm
      exact (h.unit id u owned).harvested _
  · have fate := fates.particle id
    rw [found] at fate
    cases fate with
    | kept rel =>
      obtain ⟨p, owned, becomes⟩ := exists_of_rel_some rel
      exact becomes.displayable (h.particle id p owned)
    | born _ built becomes eq =>
      obtain rfl := Option.some.inj eq
      exact becomes.displayable (made _ _ built).displayable
    | erased none => cases none

theorem displayable_onMap {map : Map} {capacity : Nat}
    (started : World.onMap map capacity = .ok w) : w.Displayable := by
  have inStep : w.InStep := .onMap started
  obtain ⟨area, -, rfl⟩ := of_onMap started
  refine ⟨inStep, fun id u found => ?_, fun id p found => ?_⟩ <;> cases found

theorem isFounding_displayable : IsFounding Displayable where
  remap h same := ⟨isFounding_inStep.remap h.inStep same, h.unit, h.particle⟩
  spawn preset _ h spawned := by
    have made : (Op.spawnUnit fun id => .ok (preset.build id)).SpawnsMade := by
      rintro id u built
      exact ⟨preset, id, [], built⟩
    exact h.perform made (Checked.map_eq_ok_iff.mpr ⟨_, spawned, rfl⟩)

theorem ReachableBy.displayable (h : w.ReachableBy Op.SpawnsMade) : w.Displayable := by
  induction h with
  | onMap started => exact displayable_onMap started
  | generate generated => exact isFounding_displayable.generateBy displayable_onMap generated
  | perform _ made performed ih => exact ih.perform made performed

/-! ### Sprites -/

/-- The frame set that a sprite names, at the entity that it is drawn for: that of a particle, of
the body of a unit, or of the overlay of a building. -/
inductive ShownBy (w : World) (s : Sprite) : FrameSet → Prop
  | particle {p : Particle} : w.particle? s.entity = some p → s.layer = .base →
    s.animation = p.frames.id → ShownBy w s p.frames
  | body {u : GameUnit} : w.unit? s.entity = some u → s.layer = .base →
    s.animation = u.body.frames.id → ShownBy w s u.body.frames
  | overlay {u : GameUnit} {o : Overlay} : w.unit? s.entity = some u → u.kind = .building o →
    s.layer = .overlay → s.animation = o.frames.id → ShownBy w s o.frames

/-- A sprite of a displayable world is a frame of the set that it names, or frame zero of an empty
set. -/
theorem Displayable.exists_shownBy (h : w.Displayable) {list : DrawList} {s : Sprite}
    (drawn : s ∈ w.sprites list) : ∃ frames, w.ShownBy s frames ∧ frames.Admits s.frame := by
  -- the particles are drawn first, then the units
  rcases List.mem_append.mp drawn with drawn | drawn
  · obtain ⟨p, listed, rfl⟩ := List.mem_map.mp drawn
    obtain ⟨id, -, found⟩ := List.mem_filterMap.mp listed
    obtain rfl := h.inStep.particle_id found
    exact ⟨p.frames, .particle found rfl rfl, h.particle _ p found⟩
  · obtain ⟨u, listed, drawn⟩ := List.mem_flatMap.mp drawn
    obtain ⟨id, -, found⟩ := List.mem_filterMap.mp listed
    obtain rfl := h.inStep.unit_id found
    have shown := h.unit _ u found
    rw [GameUnit.sprites_eq_cons] at drawn
    rcases List.mem_cons.mp drawn with rfl | drawn
    · exact ⟨u.body.frames, .body found rfl rfl, shown.body⟩
    · unfold GameUnit.overlaySprites at drawn
      split at drawn
      case h_1 o kind =>
        obtain rfl := List.mem_singleton.mp drawn
        exact ⟨o.frames, .overlay found kind rfl rfl, shown.overlay o kind⟩
      case h_2 => cases drawn

/-- A displayable world has a frame, and what it shows is as the world is afterwards. -/
theorem Displayable.exists_frame (h : w.Displayable) :
    ∃ f list, w.frame = .ok f ∧ f.world.Displayable ∧ f.picture.sprites = f.world.sprites list := by
  have steady : w.roster.Steady := fun found => (h.unit _ _ found).hasNextFrame
  obtain ⟨f, framed, -⟩ := h.inStep.exists_frame steady
  have performed : Op.frame.perform w = .ok (some (.framed f.picture f.stats), f.world) :=
    Checked.map_eq_ok_iff.mpr ⟨f, framed, rfl⟩
  have after := h.perform (show Op.SpawnsMade .frame from trivial) performed
  have drawn := framed
  simp only [World.frame, Checked.bind_eq_ok_iff, Except.ok.injEq] at drawn
  obtain ⟨t, -, ⟨list, world⟩, -, rfl⟩ := drawn
  exact ⟨_, list, framed, after, rfl⟩

/-- However an entity is made, whatever is done to it has a result, which shows a frame that its set
has, or frame zero of an empty set; the same holds of the overlay of a building.  Every frame of a
world that owns such entities only draws such frames only. -/
theorem displayable_of_made :
    (∀ (preset : UnitPreset) (id : EntityId) (deeds : List GameUnit.Deed),
      ∃ u, GameUnit.act deeds (preset.build id) = .ok u ∧ u.Displayable) ∧
    (∀ id pos footprint frames color shift (deeds : List Particle.Deed),
      ∃ p, Particle.act deeds (.create id pos footprint frames color shift) = .ok p ∧
        p.Displayable) ∧
    ∀ w : World, w.ReachableBy Op.SpawnsMade → ∃ f, w.frame = .ok f ∧
      ∀ s ∈ f.picture.sprites, ∃ frames, f.world.ShownBy s frames ∧ frames.Admits s.frame := by
  refine ⟨fun preset id deeds => (preset.displayable_build id).exists_act deeds,
    fun id pos footprint frames color shift deeds =>
      (Particle.displayable_create id pos footprint frames color shift).exists_act deeds,
    fun w reachable => ?_⟩
  obtain ⟨f, list, framed, after, sprites⟩ := reachable.displayable.exists_frame
  refine ⟨f, framed, fun s drawn => ?_⟩
  rw [sprites] at drawn
  exact after.exists_shownBy drawn

/-- A unit whose walk has fewer frames than its stand, on its way after it has stood for a while, a
particle without frames, and a house out of view. -/
def parade : List Op :=
  [.spawnUnit fun id => GameUnit.act (List.replicate 5 .advance)
      (.mobile id 25 ⟨40, 40⟩ 14 ⟨1, 9⟩ ⟨2, 2⟩ 1 1),
    .spawnUnit fun id => GameUnit.act (List.replicate 5 .advanceOverlay)
      (.building id ⟨1200, 1200⟩ .house 1),
    .spawnParticle fun id => Particle.act [.advance, .place ⟨200, 350⟩, .advance]
      (.create id ⟨5, 5⟩ (.ofDiameter 8) ⟨7, 0⟩ 0 .origin),
    .moveUnit ⟨1⟩ ⟨100, 40⟩ .origin, .reshapeViewport 0 0 800 600, .tick]

theorem displayable_of_parade : ∃ (w : World) (f : Framed), w.ReachableBy Op.SpawnsMade ∧
    w.frame = .ok f ∧
    f.picture.sprites.map (fun s => (s.animation, s.frame)) = [(7, 0), (2, 1)] ∧
    ∀ s ∈ f.picture.sprites, ∃ frames, f.world.ShownBy s frames ∧ frames.Admits s.frame := by
  have shown : (((onMap (Map.empty.resize .small) 1) >>= run parade) >>= fun r =>
      r.2.frame).map (fun f => f.picture.sprites.map fun s => (s.animation, s.frame))
      = .ok [(7, 0), (2, 1)] := by
    decide +kernel
  obtain ⟨f, framed, shown⟩ := Checked.map_eq_ok_iff.mp shown
  obtain ⟨⟨replies, w⟩, ran, framed⟩ := Checked.bind_eq_ok_iff.mp framed
  obtain ⟨w₀, started, ran⟩ := Checked.bind_eq_ok_iff.mp ran
  have made : ∀ op ∈ parade, op.SpawnsMade := by
    simp only [parade, List.forall_mem_cons, List.not_mem_nil, false_imp_iff, implies_true,
      and_true]
    refine ⟨fun id u built => ?_, fun id u built => ?_, fun id p built => ?_, trivial, trivial,
      trivial⟩
    · exact ⟨.mobile 25 ⟨40, 40⟩ 14 ⟨1, 9⟩ ⟨2, 2⟩ 1 1, id, _, built⟩
    · exact ⟨.building ⟨1200, 1200⟩ .house 1, id, _, built⟩
    · exact ⟨_, _, _, _, _, _, _, built⟩
  have reachable : w.ReachableBy Op.SpawnsMade := (ReachableBy.onMap started).run made ran
  obtain ⟨f', framed', admits⟩ := displayable_of_made.2.2 w reachable
  obtain rfl : f = f' := Except.ok.inj (framed.symm.trans framed')
  exact ⟨w, f, reachable, framed, shown, admits⟩

end World

end Skirmish
