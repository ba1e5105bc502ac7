import Skirmish.Proofs.World.Founding
import Skirmish.Proofs.World.Progress

/-!
# What a frame shows

A frame is a tick and a picture of the world after it.  The picture is determined by the owned
entities alone: each particle in view by one sprite, and then each living unit in view by its
sprite and, for a building, its overlay.  The world is left as the tick left it, but for the screen
boxes of what was drawn.

## Main definitions

* `Ticking.Shown` — what a frame shows, said of the world after its tick.

## Main results

* `World.sprites_inView`, `World.marker_inView` — the picture of what is in view.
* `World.frame_of_reachable` — every frame of a world that can be reached.
-/

namespace Skirmish

namespace GameUnit

def isBuilding (u : GameUnit) : Bool :=
  match u.kind with
  | .building _ => true
  | _ => false

/-- The overlay of a building. -/
def overlaySprites (v : Viewport) (u : GameUnit) : List Sprite :=
  match u.kind with
  | .building o =>
    [{ u.body.sprite v with animation := o.frames.id, frame := o.frame, layer := .overlay }]
  | _ => []

theorem sprites_eq_cons (v : Viewport) (u : GameUnit) :
    u.sprites v = u.body.sprite v :: u.overlaySprites v := by
  unfold sprites overlaySprites
  cases u.kind <;> rfl

end GameUnit

/-- What a sprite is, and where it is, without its look. -/
def Sprite.outline (s : Sprite) : EntityId × Layer × Box := (s.entity, s.layer, s.screen)

theorem GameUnit.map_outline_overlaySprites (v : Viewport) (u : GameUnit) :
    (u.overlaySprites v).map Sprite.outline
      = if u.isBuilding then [(u.id, .overlay, u.body.screenBox v)] else [] := by
  unfold overlaySprites isBuilding
  cases u.kind <;> rfl

namespace World

/-! ### Pictures -/

section

variable {w : World} {roster : Roster}

/-- What is in view is drawn after its screen boxes have been computed anew. -/
theorem sprites_inView (keyed : w.roster.Keyed) (h : Projected w.map.view w.roster roster) :
    World.sprites w.inView { w with roster }
      = (w.roster.particlesIn w.map.view.box).map (Particle.sprite w.map.view)
        ++ (w.roster.liveIn w.map.view.box).flatMap fun u =>
          u.body.sprite w.map.view :: u.overlaySprites w.map.view := by
  have particles : w.inView.particles.filterMap roster.particle?
      = (w.roster.particlesIn w.map.view.box).map (Particle.project w.map.view) := by
    rw [inView, List.filterMap_map, ← List.filterMap_eq_map]
    refine List.filterMap_congr ?_
    intro p mem
    obtain ⟨found, meets⟩ := keyed.mem_particlesIn.mp mem
    rw [Function.comp_apply, h.particle?, found, Option.map_some, if_pos meets,
      Function.comp_apply]
  have units : w.inView.units.filterMap roster.unit?
      = (w.roster.liveIn w.map.view.box).map (GameUnit.project w.map.view) := by
    rw [inView, List.filterMap_map, ← List.filterMap_eq_map]
    refine List.filterMap_congr ?_
    intro u mem
    obtain ⟨found, seen⟩ := keyed.mem_liveIn.mp mem
    rw [Function.comp_apply, h.unit?, found, Option.map_some, if_pos seen, Function.comp_apply]
  have drawn : World.sprites w.inView { w with roster }
      = (w.inView.particles.filterMap roster.particle?).map (Particle.sprite w.map.view)
        ++ (w.inView.units.filterMap roster.unit?).flatMap (GameUnit.sprites w.map.view) := rfl
  -- a sprite does not depend on the screen box that is remembered
  rw [drawn, particles, units, List.map_map, List.flatMap_map]
  simp only [GameUnit.sprites_eq_cons]
  rfl

/-- The marker is drawn around the selected unit if that is drawn. -/
theorem marker_inView (keyed : w.roster.Keyed) (h : Projected w.map.view w.roster roster)
    {id : EntityId} {box : Box} : World.marker w.inView { w with roster } = some (id, box) ↔
      w.selected = some id ∧
        ∃ u ∈ w.roster.liveIn w.map.view.box, u.id = id ∧ box = u.body.screenBox w.map.view := by
  have held {u : GameUnit} (mem : u ∈ w.roster.liveIn w.map.view.box) :
      roster.unit? u.id = some (u.project w.map.view) := by
    obtain ⟨found, seen⟩ := keyed.mem_liveIn.mp mem
    rw [h.unit?, found, Option.map_some, if_pos seen]
  have marked : World.marker w.inView { w with roster }
      = (((w.selected.filter fun id => decide (id ∈ w.inView.units)).bind roster.unit?).map
        (GameUnit.marker w.map.view)) := rfl
  rw [marked, Option.map_eq_some_iff]
  constructor
  · rintro ⟨u', found, mark⟩
    obtain ⟨id', selected, found⟩ := Option.bind_eq_some_iff.mp found
    obtain ⟨selected, listed⟩ := Option.filter_eq_some_iff.mp selected
    obtain ⟨u, mem, rfl⟩ := List.mem_map.mp (of_decide_eq_true listed)
    obtain rfl : u.project w.map.view = u' := Option.some.inj ((held mem).symm.trans found)
    obtain ⟨rfl, rfl⟩ := Prod.mk.inj mark
    exact ⟨selected, u, mem, rfl, rfl⟩
  · rintro ⟨selected, u, mem, rfl, rfl⟩
    refine ⟨u.project w.map.view, ?_, rfl⟩
    have listed : u.id ∈ w.inView.units := List.mem_map.mpr ⟨u, mem, rfl⟩
    rw [selected, Option.filter_some, if_pos (decide_eq_true listed), Option.bind_some, held mem]

end

/-! ### Frames -/

/-- What a frame shows, said of the world after its tick.  The particles in view, and the living and
the dead units in view, are those that are found by looking at everything that is owned. -/
structure Ticking.Shown (t : Ticking) (f : Framed) (particles : List Particle)
    (live dead : List GameUnit) : Prop where
  mem_particles : ∀ p, p ∈ particles ↔
    t.world.particle? p.id = some p ∧ p.bounds.Meets t.world.map.view.box
  mem_live : ∀ u, u ∈ live ↔
    t.world.unit? u.id = some u ∧ u.bounds.Meets t.world.map.view.box ∧ u.hp ≠ 0
  mem_dead : ∀ u, u ∈ dead ↔
    t.world.unit? u.id = some u ∧ u.bounds.Meets t.world.map.view.box ∧ u.hp = 0
  ascending_particles : EntityId.Ascending (particles.map Particle.id)
  ascending_live : EntityId.Ascending (live.map GameUnit.id)
  ascending_dead : EntityId.Ascending (dead.map GameUnit.id)
  /-- One base sprite for each particle, then for each living unit its base sprite and right after
  it the overlay of a building, all of them at their boxes on the screen. -/
  outline : f.picture.sprites.map Sprite.outline
    = particles.map (fun p => (p.id, .base, p.screenBox t.world.map.view))
      ++ live.flatMap fun u => (u.id, .base, u.body.screenBox t.world.map.view) ::
        if u.isBuilding then [(u.id, .overlay, u.body.screenBox t.world.map.view)] else []
  /-- The sprites in full. -/
  sprites : f.picture.sprites
    = particles.map (Particle.sprite t.world.map.view)
      ++ live.flatMap fun u =>
        u.body.sprite t.world.map.view :: u.overlaySprites t.world.map.view
  /-- The marker is around the selected unit, if that is drawn. -/
  marker_iff : ∀ id box, f.picture.marker = some (id, box) ↔
    t.world.selected = some id ∧
      ∃ u ∈ live, u.id = id ∧ box = u.body.screenBox t.world.map.view
  stats : f.stats = ⟨t.ticked, t.moved, live.length, particles.length, dead.length⟩
  /-- The screen boxes of what is drawn are computed anew; nothing else is changed. -/
  particle? : ∀ id, f.world.particle? id = (t.world.particle? id).map fun p =>
    if p.bounds.Meets t.world.map.view.box then
      { p with screen := p.screenBox t.world.map.view }
    else p
  unit? : ∀ id, f.world.unit? id = (t.world.unit? id).map fun u =>
    if u.bounds.Meets t.world.map.view.box ∧ u.hp ≠ 0 then
      { u with body.screen := u.body.screenBox t.world.map.view }
    else u
  next : f.world.roster.next = t.world.roster.next
  map : f.world.map = t.world.map
  index : f.world.index = t.world.index
  selected : f.world.selected = t.world.selected

theorem isDead_iff (u : GameUnit) : u.isDead ↔ u.hp = 0 := decide_eq_true_iff

/-- The picture of what is in view, and the world with fresh screen boxes. -/
theorem Ticking.shown_of_projected {t : Ticking} {roster : Roster} (keyed : t.world.roster.Keyed)
    (h : Projected t.world.map.view t.world.roster roster) :
    t.Shown
      { picture := World.draw t.world.inView { t.world with roster }
        stats := (FrameStats.ofTick t.ticked t.moved).withDrawn t.world.inView
        world := { t.world with roster } }
      (t.world.roster.particlesIn t.world.map.view.box)
      (t.world.roster.liveIn t.world.map.view.box)
      (t.world.roster.deadIn t.world.map.view.box) := by
  have sprites := sprites_inView keyed h
  constructor
  case mem_particles => exact fun p => keyed.mem_particlesIn
  case mem_live => exact fun u => by rw [keyed.mem_liveIn, isDead_iff]; rfl
  case mem_dead => exact fun u => by rw [keyed.mem_deadIn, isDead_iff]; rfl
  case ascending_particles => exact keyed.ascending_particlesIn
  case ascending_live => exact keyed.ascending_liveIn
  case ascending_dead => exact keyed.ascending_deadIn
  case outline =>
    refine (congrArg (List.map Sprite.outline) sprites).trans ?_
    rw [List.map_append, List.map_map, List.map_flatMap]
    simp only [List.map_cons, GameUnit.map_outline_overlaySprites]
    rfl
  case sprites => exact sprites
  case marker_iff => exact fun id box => marker_inView keyed h
  case stats => simp [FrameStats.withDrawn, FrameStats.ofTick, FrameStats.none, inView]
  case particle? => exact h.particle?
  case unit? =>
    intro id
    refine (h.unit? id).trans ?_
    simp only [isDead_iff]
    rfl
  case next => exact h.next
  all_goals rfl

/-- Every frame of a world that can be reached draws exactly what is in view after the tick.  There
is no frame only if there is no tick, because a unit that can walk shows the last frame number that
there is. -/
theorem frame_of_reachable {w : World} (reachable : w.Reachable) :
    (∃ t f particles live dead, w.tick = .ok t ∧ w.frame = .ok f ∧
      t.Shown f particles live dead) ∨
    ∃ fault id u, w.tick = .error fault ∧ w.frame = .error fault ∧ w.unit? id = some u ∧
      u.isMobile ∧ u.body.frame.toNat + 1 = UInt32.size := by
  have h : w.InStep := reachable.inStep
  cases ticked : w.tick with
  | error fault =>
    have failed : w.frame = .error fault := by rw [World.frame, ticked, Checked.error_bind]
    obtain ⟨id, u, found, last⟩ : ∃ id u, w.unit? id = some u ∧ ¬ u.HasNextFrame := by
      by_contra none
      have steady : w.roster.Steady := by
        intro id u found
        by_contra last
        exact none ⟨id, u, found, last⟩
      obtain ⟨t, ok, -⟩ := h.exists_tick steady
      rw [ticked] at ok
      cases ok
    obtain ⟨mobile, last⟩ := Classical.not_imp.mp last
    have below : u.body.frame.toNat < UInt32.size := u.body.frame.toNat_lt
    exact .inr ⟨fault, id, u, rfl, failed, found, mobile, by omega⟩
  | ok t =>
    have after : t.world.InStep := h.tick ticked
    obtain ⟨roster, culled, projected⟩ := after.exists_cull
    have framed : w.frame = .ok
        { picture := World.draw t.world.inView { t.world with roster }
          stats := (FrameStats.ofTick t.ticked t.moved).withDrawn t.world.inView
          world := { t.world with roster } } := by
      rw [World.frame, ticked, Checked.ok_bind, culled, Checked.ok_bind]
    exact .inl ⟨t, _, _, _, _, rfl, framed, Ticking.shown_of_projected after.keyed projected⟩

/-- A selected house and a piece of debris in view, and a house and a resource node out of view. -/
def campsite : List Op :=
  [.spawnUnit fun id => .ok (.building id ⟨300, 300⟩ .house 1),
    .spawnUnit fun id => .ok (.building id ⟨1200, 1200⟩ .house 2),
    .spawnParticle fun id => .ok (.debris id ⟨200, 350⟩ 0),
    .spawnUnit fun id => .ok (.resource id ⟨1500, 150⟩ .gold),
    .select (some ⟨1⟩), .reshapeViewport (-100) 200 800 600]

theorem frame_of_campsite : ∃ (w : World) (f : Framed), w.Reachable ∧ w.frame = .ok f ∧
    f.picture.sprites.map Sprite.outline = [(⟨3⟩, .base, .centered 300 150 4 4),
      (⟨1⟩, .base, .centered 400 100 32 32), (⟨1⟩, .overlay, .centered 400 100 32 32)] ∧
    f.picture.marker = some (⟨1⟩, .centered 400 100 32 32) ∧ f.stats = ⟨0, 0, 1, 1, 0⟩ ∧
    ∃ t particles live dead, w.tick = .ok t ∧ t.Shown f particles live dead := by
  have shown : (((onMap (Map.empty.resize .small) 1) >>= run campsite) >>= fun r =>
      r.2.frame).map (fun f => (f.picture.sprites.map Sprite.outline, f.picture.marker, f.stats))
      = .ok ([(⟨3⟩, .base, .centered 300 150 4 4), (⟨1⟩, .base, .centered 400 100 32 32),
          (⟨1⟩, .overlay, .centered 400 100 32 32)], some (⟨1⟩, .centered 400 100 32 32),
          ⟨0, 0, 1, 1, 0⟩) := by
    decide +kernel
  obtain ⟨f, framed, shown⟩ := Checked.map_eq_ok_iff.mp shown
  obtain ⟨⟨replies, w⟩, ran, framed⟩ := Checked.bind_eq_ok_iff.mp framed
  obtain ⟨w₀, started, ran⟩ := Checked.bind_eq_ok_iff.mp ran
  have reachable : w.Reachable := (Reachable.onMap started).run ran
  simp only [Prod.mk.injEq] at shown
  refine ⟨w, f, reachable, framed, shown.1, shown.2.1, shown.2.2, ?_⟩
  rcases frame_of_reachable reachable with
    ⟨t, f', particles, live, dead, ticked, framed', shows⟩ | ⟨fault, id, u, -, failed, -⟩
  · obtain rfl : f = f' := Except.ok.inj (framed.symm.trans framed')
    exact ⟨t, particles, live, dead, ticked, shows⟩
  · exact absurd (framed.symm.trans failed) nofun

end World

end Skirmish
