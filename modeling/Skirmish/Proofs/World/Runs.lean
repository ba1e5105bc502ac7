import Skirmish.Proofs.World.InStep

/-!
# Runs of a world

Whatever is done to a world, the index files exactly the entities that the roster owns, each under
its own ground and gait, and no entity leaves the playable area.  So a query lists the owned
entities that meet the region and no others.

Nothing is assumed of what is done: entities may be built with any footprint and any speed, and
targets, regions and viewports may lie anywhere.

## Main definitions

* `World.Op`, `World.run` — what can be done to a world, and several operations in a row.
* `World.Agrees` — the index files what the roster owns, and all of it lies inside the map.

## Main results

* `InStep.perform`, `InStep.run` — an operation, and a run, keep roster and index in step.
* `InStep.agrees` — roster and index in step agree in all that can be asked of them.
* `agrees_of_run` — every run from an empty world.
-/

namespace Skirmish

namespace World

/-! ### Operations -/

/-- An operation on a world. -/
inductive Op where
  /-- Villagers, resource nodes and buildings are spawned in this way as well. -/
  | spawnUnit (build : EntityId → Except Fault GameUnit)
  | spawnParticle (build : EntityId → Except Fault Particle)
  | erase (id : EntityId)
  | eraseParticle (id : EntityId)
  | moveUnit (id : EntityId) (target shift : Point)
  | relocate (id : EntityId) (target : Point)
  | relocateParticle (id : EntityId) (target : Point)
  | damage (id : EntityId) (amount : UInt32)
  | harvest (id : EntityId) (request : UInt32)
  | query (kind : EntityKind) (region : Box)
  | rebuildIndex
  | reshapeViewport (x y width height : Int32)
  | select (id : Option EntityId)
  | selectAt (screen : Point)
  | tick
  | cull
  | draw (list : DrawList)
  | frame

/-- What an operation replies. -/
inductive Reply where
  | spawned (id : Option EntityId)
  | done (success : Bool)
  | killed (died : Option Bool)
  | taken (amount : Option UInt32)
  | listed (ids : List EntityId)
  | picked (id : Option EntityId)
  | ticked (ticked moved : Nat)
  | culled (list : DrawList)
  | drawn (picture : Picture)
  | framed (picture : Picture) (stats : FrameStats)
  deriving DecidableEq

/-- What an operation replies, if it replies anything, and the world after it. -/
def Op.perform : Op → World → Except Fault (Option Reply × World)
  | spawnUnit build, w => (w.spawnUnit build).map fun r => (some (.spawned r.1), r.2)
  | spawnParticle build, w => (w.spawnParticle build).map fun r => (some (.spawned r.1), r.2)
  | erase id, w => (w.erase id).map fun r => (some (.done r.1), r.2)
  | eraseParticle id, w => (w.eraseParticle id).map fun r => (some (.done r.1), r.2)
  | moveUnit id target shift, w =>
    (w.moveUnit id target shift).map fun r => (some (.done r.1), r.2)
  | relocate id target, w => (w.relocate id target).map fun r => (some (.done r.1), r.2)
  | relocateParticle id target, w =>
    (w.relocateParticle id target).map fun r => (some (.done r.1), r.2)
  | damage id amount, w => .ok (some (.killed (w.damage id amount).1), (w.damage id amount).2)
  | harvest id request, w => .ok (some (.taken (w.harvest id request).1), (w.harvest id request).2)
  | query kind region, w => (w.query kind region).map fun ids => (some (.listed ids), w)
  | rebuildIndex, w => w.rebuildIndex.map fun w => (none, w)
  | reshapeViewport x y width height, w => .ok (none, w.reshapeViewport x y width height)
  | select id, w => .ok (none, w.select id)
  | selectAt screen, w => (w.selectAt screen).map fun w => (some (.picked w.selected), w)
  | tick, w => w.tick.map fun t => (some (.ticked t.ticked t.moved), t.world)
  | cull, w => w.cull.map fun r => (some (.culled r.1), r.2)
  | draw list, w => .ok (some (.drawn (w.draw list)), w)
  | frame, w => w.frame.map fun f => (some (.framed f.picture f.stats), f.world)

/-- Operations in a row, with their replies. -/
def run : List Op → World → Except Fault (List Reply × World)
  | [], w => .ok ([], w)
  | op :: ops, w => do
    let (reply, w) ← op.perform w
    let (replies, w) ← run ops w
    .ok (reply.toList ++ replies, w)

variable {w w' : World}

/-- An operation keeps roster and index in step. -/
theorem InStep.perform {op : Op} {reply : Option Reply} (h : w.InStep)
    (performed : op.perform w = .ok (reply, w')) : w'.InStep := by
  cases op with
  | spawnUnit build =>
    obtain ⟨⟨spawned, w₁⟩, spawn, -, rfl⟩ := Checked.of_map_eq_ok performed
    exact h.spawnUnit spawn
  | spawnParticle build =>
    obtain ⟨⟨spawned, w₁⟩, spawn, -, rfl⟩ := Checked.of_map_eq_ok performed
    exact h.spawnParticle spawn
  | erase id =>
    obtain ⟨⟨erased, w₁⟩, erasure, -, rfl⟩ := Checked.of_map_eq_ok performed
    exact h.erase erasure
  | eraseParticle id =>
    obtain ⟨⟨erased, w₁⟩, erasure, -, rfl⟩ := Checked.of_map_eq_ok performed
    exact h.eraseParticle erasure
  | moveUnit id target shift =>
    obtain ⟨⟨ordered, w₁⟩, order, -, rfl⟩ := Checked.of_map_eq_ok performed
    exact h.moveUnit order
  | relocate id target =>
    obtain ⟨⟨filed, w₁⟩, relocation, -, rfl⟩ := Checked.of_map_eq_ok performed
    exact h.relocate relocation
  | relocateParticle id target =>
    obtain ⟨⟨filed, w₁⟩, relocation, -, rfl⟩ := Checked.of_map_eq_ok performed
    exact h.relocateParticle relocation
  | damage id amount =>
    obtain ⟨-, rfl⟩ := Prod.mk.inj (Except.ok.inj performed)
    exact h.damage id amount
  | harvest id request =>
    obtain ⟨-, rfl⟩ := Prod.mk.inj (Except.ok.inj performed)
    exact h.harvest id request
  | query kind region =>
    obtain ⟨ids, -, -, rfl⟩ := Checked.of_map_eq_ok performed
    exact h
  | rebuildIndex =>
    obtain ⟨w₁, rebuilt, -, rfl⟩ := Checked.of_map_eq_ok performed
    exact h.rebuildIndex rebuilt
  | reshapeViewport x y width height =>
    obtain ⟨-, rfl⟩ := Prod.mk.inj (Except.ok.inj performed)
    exact h.reshapeViewport x y width height
  | select id =>
    obtain ⟨-, rfl⟩ := Prod.mk.inj (Except.ok.inj performed)
    exact h.select id
  | selectAt screen =>
    obtain ⟨w₁, selection, -, rfl⟩ := Checked.of_map_eq_ok performed
    exact h.selectAt selection
  | tick =>
    obtain ⟨ticking, ticked, -, rfl⟩ := Checked.of_map_eq_ok performed
    exact h.tick ticked
  | cull =>
    obtain ⟨⟨list, w₁⟩, culled, -, rfl⟩ := Checked.of_map_eq_ok performed
    exact h.cull culled
  | draw list =>
    obtain ⟨-, rfl⟩ := Prod.mk.inj (Except.ok.inj performed)
    exact h
  | frame =>
    obtain ⟨framed, shown, -, rfl⟩ := Checked.of_map_eq_ok performed
    exact h.frame shown

/-- A run keeps roster and index in step. -/
theorem InStep.run {ops : List Op} {replies : List Reply} (h : w.InStep)
    (ran : World.run ops w = .ok (replies, w')) : w'.InStep := by
  induction ops generalizing w replies with
  | nil =>
    obtain ⟨-, rfl⟩ := Prod.mk.inj (Except.ok.inj ran)
    exact h
  | cons op ops ih =>
    simp only [World.run, Checked.bind_eq_ok_iff, Except.ok.injEq, Prod.mk.injEq] at ran
    obtain ⟨⟨reply, w₁⟩, performed, ⟨rest, w₂⟩, ran, -, rfl⟩ := ran
    exact ih (h.perform performed) ran

/-! ### Agreement -/

/-- The index files what the roster owns, and all of it lies inside the map. -/
structure Agrees (w : World) : Prop where
  contains_unit : ∀ id, w.index.contains .unit id = (w.unit? id).isSome
  contains_particle : ∀ id, w.index.contains .particle id = (w.particle? id).isSome
  /-- The nodes hold nothing but the owned units, under their own ground and gait. -/
  holds_unit : ∀ e, w.index.Holds .unit e ↔
    ∃ u, w.unit? e.id = some u ∧ u.id = e.id ∧ e.box = u.bounds ∧ e.mobile = u.isMobile
  /-- The nodes hold nothing but the owned particles, under their own ground. -/
  holds_particle : ∀ e, w.index.Holds .particle e ↔
    ∃ p, w.particle? e.id = some p ∧ p.id = e.id ∧ e.box = p.bounds ∧ e.mobile = false
  /-- What is owned lies inside the playable area. -/
  confined : ∃ area, w.map.bounds = .ok area ∧
    (∀ id u, w.unit? id = some u → area.Covers u.bounds) ∧
    ∀ id p, w.particle? id = some p → area.Covers p.bounds
  /-- A query lists the owned units that meet the region, in ascending order. -/
  query_unit : ∀ region, ∃ ids, w.query .unit region = .ok ids ∧ EntityId.Ascending ids ∧
    ∀ id, id ∈ ids ↔ ∃ u, w.unit? id = some u ∧ u.bounds.Meets region
  /-- A query lists the owned particles that meet the region, in ascending order. -/
  query_particle : ∀ region, ∃ ids, w.query .particle region = .ok ids ∧
    EntityId.Ascending ids ∧ ∀ id, id ∈ ids ↔ ∃ p, w.particle? id = some p ∧ p.bounds.Meets region

/-- Roster and index in step agree. -/
theorem InStep.agrees (h : w.InStep) : w.Agrees := by
  have s := h.sound
  have holds (kind : EntityKind) (e : Entry) :
      w.index.Holds kind e ↔ w.roster.owned? kind e.id = some e := by
    rw [s.holds_iff, h.lookup?]
  have inside {kind : EntityKind} {id : EntityId} {e : Entry}
      (held : w.roster.owned? kind id = some e) : w.index.area.Covers e.box :=
    s.area_covers ((holds kind e).mpr (h.id_eq held ▸ held))
  refine ⟨?_, ?_, ?_, ?_, ⟨w.index.area, h.bounds, ?_, ?_⟩, ?_, ?_⟩
  -- the ids
  · intro id
    rw [s.contains_eq, h.lookup?, Roster.owned?, Option.isSome_map]
    rfl
  · intro id
    rw [s.contains_eq, h.lookup?, Roster.owned?, Option.isSome_map]
    rfl
  -- the entries in the nodes
  · intro e
    rw [holds]
    constructor
    · intro held
      obtain ⟨u, found, rfl⟩ := Option.map_eq_some_iff.mp held
      exact ⟨u, found, rfl, rfl, rfl⟩
    · rintro ⟨u, found, hid, box, mobile⟩
      rw [Roster.owned?_of_unit? found, Entry.ofUnit, hid, ← box, ← mobile]
  · intro e
    rw [holds]
    constructor
    · intro held
      obtain ⟨p, found, rfl⟩ := Option.map_eq_some_iff.mp held
      exact ⟨p, found, rfl, rfl, rfl⟩
    · rintro ⟨p, found, hid, box, still⟩
      rw [Roster.owned?_of_particle? found, Entry.ofParticle, hid, ← box, ← still]
  -- the playable area
  · intro id u found
    exact inside (e := .ofUnit u) (Roster.owned?_of_unit? found)
  · intro id p found
    exact inside (e := .ofParticle p) (Roster.owned?_of_particle? found)
  -- the queries
  · intro region
    obtain ⟨ids, listed, ascending, mem⟩ := h.query .unit region
    refine ⟨ids, listed, ascending, ?_⟩
    intro id
    rw [mem, Roster.owned?]
    simp [World.unit?, Entry.ofUnit]
  · intro region
    obtain ⟨ids, listed, ascending, mem⟩ := h.query .particle region
    refine ⟨ids, listed, ascending, ?_⟩
    intro id
    rw [mem, Roster.owned?]
    simp [World.particle?, Entry.ofParticle]

/-- After every run from an empty world, over any map, the index files what the roster owns, and all
of it lies inside the map. -/
theorem agrees_of_run {map : Map} {capacity : Nat} {ops : List Op} {replies : List Reply}
    (started : World.onMap map capacity = .ok w) (ran : run ops w = .ok (replies, w')) :
    w'.Agrees := by
  have first : w.InStep := .onMap started
  have last : w'.InStep := first.run ran
  exact last.agrees

/-- Two villagers and a piece of debris, one of them beyond the map, in an index that splits at the
second entry; the first villager is put across a dividing line, the second one leaves. -/
def outing : List Op :=
  [.spawnUnit fun id => .ok (.villager id ⟨20, 20⟩ 1),
    .spawnUnit fun id => .ok (.villager id ⟨-900, 99999⟩ 2),
    .spawnParticle fun id => .ok (.debris id ⟨700, 40⟩ 1), .select (some ⟨2⟩),
    .relocate ⟨1⟩ ⟨1920, 1920⟩, .erase ⟨2⟩, .rebuildIndex]

theorem agrees_of_outing : ∃ w replies w', onMap (Map.empty.resize .small) 1 = .ok w ∧
    run outing w = .ok (replies, w') ∧ w'.index.size .unit = 1 ∧ w'.Agrees := by
  have count : ((onMap (Map.empty.resize .small) 1) >>= run outing).map
      (fun r => r.2.index.size .unit) = .ok 1 := by
    decide +kernel
  obtain ⟨⟨replies, w'⟩, ran, count⟩ := Checked.map_eq_ok_iff.mp count
  obtain ⟨w, started, ran⟩ := Checked.bind_eq_ok_iff.mp ran
  exact ⟨w, replies, w', started, ran, count, agrees_of_run started ran⟩

end World

end Skirmish
