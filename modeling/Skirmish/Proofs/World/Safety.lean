import Skirmish.Proofs.World.Progress
import Skirmish.Proofs.World.Runs

/-!
# Playing without faults

Over a map whose edges are coordinates, no operation of a match has a fault, as long as entities are
made from the presets and the ids do not run out.  Coordinates, regions, viewports, amounts, sizes
and speeds may be anything.

The entities that are there are no trouble: they fit the map.  A preset may be larger than the map,
but its span is a coordinate, it shows its first frame, and it is filed under an id that has never
been handed out before.  What is taken from a stock is computed without a check, and needs none
(`Stock.taken_add_harvest`).

## Main definitions

* `UnitPreset` — the ways to make a unit.
* `World.Op.UsesPresets` — an operation that makes entities from presets only.
* `World.Playable` — the worlds that can be played on, with how many ids are handed out.

## Main results

* `Playable.exists_perform` — an operation gives a result, and the world can be played on.
* `Playable.exists_run`, `World.exists_run_of_usesPresets` — every run gives a result.
-/

namespace Skirmish

/-! ### Presets -/

/-- The ways to make a unit. -/
inductive UnitPreset where
  | villager (pos : Point) (color : UInt32)
  | resource (pos : Point) (kind : Resource)
  | resourceNode (pos : Point) (diameter : UInt32) (frames : FrameSet) (stock : Stock)
  | mobile (hp : UInt32) (pos : Point) (diameter : UInt32) (stand walk : FrameSet)
    (color : UInt32) (speed : Float32)
  | building (pos : Point) (kind : Building) (color : UInt32)

/-- The unit that a preset makes under an id. -/
def UnitPreset.build (id : EntityId) : UnitPreset → GameUnit
  | villager pos color => .villager id pos color
  | resource pos kind => .resource id pos kind
  | resourceNode pos diameter frames stock => .resourceNode id pos diameter frames stock
  | mobile hp pos diameter stand walk color speed =>
    .mobile id hp pos diameter stand walk color speed
  | building pos kind color => .building id pos kind color

namespace Footprint

/-- A footprint whose spans are coordinates. -/
structure IsModest (f : Footprint) : Prop where
  wide : 0 ≤ f.half.x.toInt ∧ f.half.x.toInt < 1073741824
  tall : 0 ≤ f.half.y.toInt ∧ f.half.y.toInt < 1073741824

/-- Half of an extent is less than a quarter of the coordinate range. -/
theorem halve_between (extent : Int32) :
    0 ≤ (halve extent).toInt ∧ (halve extent).toInt < 1073741824 := by
  have range := (Coord.inRange_toInt extent).2
  have half := Coord.half_toward_zero extent
  unfold Coord.greatest at range
  unfold halve
  split
  case isTrue =>
    rw [Int32.toInt_one]
    omega
  case isFalse large =>
    rw [Int32.lt_iff_toInt_lt, Int32.toInt_one] at large
    omega

theorem isModest_ofDiameter (diameter : UInt32) : (ofDiameter diameter).IsModest :=
  ⟨halve_between _, halve_between _⟩

end Footprint

theorem Building.isModest_footprint (kind : Building) : kind.footprint.IsModest := by
  cases kind <;> exact ⟨by decide, by decide⟩

namespace UnitPreset

variable (id : EntityId) (preset : UnitPreset)

theorem id_build : (preset.build id).id = id := by
  cases preset <;> rfl

theorem hasNextFrame_build : (preset.build id).HasNextFrame := by
  intro _
  have first : (0 : UInt32).toNat + 1 < UInt32.size := by decide
  cases preset <;> exact first

theorem isModest_build : (preset.build id).body.footprint.IsModest := by
  cases preset with
  | building pos kind color => exact kind.isModest_footprint
  | villager pos color => exact Footprint.isModest_ofDiameter _
  | resource pos kind => exact Footprint.isModest_ofDiameter _
  | resourceNode pos diameter frames stock => exact Footprint.isModest_ofDiameter _
  | mobile hp pos diameter stand walk color speed => exact Footprint.isModest_ofDiameter _

end UnitPreset

namespace World

/-! ### Operations -/

/-- An operation that makes entities from presets only, under the ids that they are given. -/
def Op.UsesPresets : Op → Prop
  | spawnUnit build => ∃ preset : UnitPreset, build = fun id => .ok (preset.build id)
  | spawnParticle build => ∃ pos color, build = fun id => .ok (.debris id pos color)
  | _ => True

/-- Whether an operation takes an id. -/
def Op.isSpawn : Op → Bool
  | spawnUnit _ => true
  | spawnParticle _ => true
  | _ => false

/-- A world that can be played on: roster and index are in step, the playable area is not inside out,
and so many ids are handed out, no others being owned. -/
structure Playable (w : World) (issued : Nat) : Prop where
  inStep : w.InStep
  room : ∃ area, w.map.bounds = .ok area ∧ 0 ≤ area.half.x.toInt ∧ 0 ≤ area.half.y.toInt
  steady : w.roster.Steady
  next : w.roster.next.toNat = issued + 1
  old : ∀ {kind id e}, w.roster.owned? kind id = some e → id.number < w.roster.next

variable {w w' : World} {issued : Nat}

/-- What goes on without new entities can be played on. -/
theorem Playable.continues (h : w.Playable issued) (inStep : w'.InStep) (c : w.Continues w') :
    w'.Playable issued where
  inStep := inStep
  room := by
    have bounds : w'.map.bounds = w.map.bounds := by rw [Map.bounds, Map.bounds, c.grid]
    rw [bounds]
    exact h.room
  steady := c.roster.steady h.steady
  next := c.roster.next ▸ h.next
  old {kind id e'} held := by
    have owned : ∃ e, w.roster.owned? kind id = some e := by
      cases kind with
      | unit =>
        obtain ⟨u', found, -⟩ := Option.map_eq_some_iff.mp held
        obtain ⟨u, found, -⟩ := c.roster.unit found
        exact ⟨.ofUnit u, Roster.owned?_of_unit? found⟩
      | particle =>
        obtain ⟨p', found, -⟩ := Option.map_eq_some_iff.mp held
        obtain ⟨p, found⟩ := c.roster.particle found
        exact ⟨.ofParticle p, Roster.owned?_of_particle? found⟩
    obtain ⟨e, held⟩ := owned
    rw [c.roster.next]
    exact h.old held

/-! ### Spawning -/

/-- The next id is handed out. -/
theorem Playable.issue_eq (h : w.Playable issued) (left : issued + 2 < UInt32.size) :
    w.roster.issue = .ok (⟨w.roster.next⟩, { w.roster with next := w.roster.next + 1 }) ∧
      (w.roster.next + 1).toNat = issued + 2 := by
  have room : w.roster.next.toNat + 1 < UInt32.size := by rw [h.next]; exact left
  refine ⟨if_pos room, ?_⟩
  have one : (1 : UInt32).toNat = 1 := rfl
  rw [UInt32.toNat_add, one, Nat.mod_eq_of_lt room, h.next]

/-- The next id is not filed yet. -/
theorem Playable.exists_put (h : w.Playable issued) (kind : EntityKind) {e : Entry}
    (fresh : e.id.number = w.roster.next) (still : kind = .particle → e.mobile = false) :
    ∃ filed index, w.index.put kind e = .ok (filed, index) := by
  by_cases covers : w.index.area.Covers e.box
  · have new : w.index.lookup? kind e.id = none := by
      rw [h.inStep.lookup?, Option.eq_none_iff_forall_ne_some]
      intro e' held
      have lt := h.old held
      rw [fresh] at lt
      exact UInt32.lt_irrefl _ lt
    obtain ⟨⟨filed, index⟩, put, -⟩ :=
      (h.inStep.sound.put covers new still).exists_ok (not_not_intro h.inStep.exact.dividable)
    exact ⟨filed, index, put⟩
  · exact ⟨false, w.index, Quadtree.put_of_not_covers covers⟩

/-- A roster that has handed out one more id, and owns nothing but what was owned and what is owned
under that id. -/
theorem Playable.of_issue (h : w.Playable issued) (inStep : w'.InStep) (map : w'.map = w.map)
    (next : w'.roster.next.toNat = issued + 2) (steady : w'.roster.Steady)
    (owned : ∀ kind id e, w'.roster.owned? kind id = some e →
      id.number = w.roster.next ∨ w.roster.owned? kind id = some e) :
    w'.Playable (issued + 1) where
  inStep := inStep
  room := map ▸ h.room
  steady := steady
  next := next
  old {kind id e} held := by
    have before := h.next
    rw [UInt32.lt_iff_toNat_lt, next]
    rcases owned kind id e held with eq | held
    · rw [eq]
      omega
    · have lt := UInt32.lt_iff_toNat_lt.mp (h.old held)
      omega

/-- A unit from a preset is built and clamped, and filed unless it is too large. -/
theorem Playable.exists_spawnUnit (h : w.Playable issued) (left : issued + 2 < UInt32.size)
    (preset : UnitPreset) : ∃ spawned w',
      w.spawnUnit (fun id => .ok (preset.build id)) = .ok (spawned, w') ∧
        w'.Playable (issued + 1) := by
  obtain ⟨issue, next⟩ := h.issue_eq left
  obtain ⟨area, bounds, room⟩ := h.room
  have modest := preset.isModest_build ⟨w.roster.next⟩
  obtain ⟨fitted, clamped⟩ := Map.exists_clamp (b := (preset.build ⟨w.roster.next⟩).bounds)
    bounds room modest.wide modest.tall
  obtain ⟨u, hu⟩ : ∃ u, u = ((preset.build ⟨w.roster.next⟩).settle fitted.center).project
    w.map.view := ⟨_, rfl⟩
  have hid : u.id = ⟨w.roster.next⟩ := by
    have settled := Entry.ofUnit_settle (preset.build ⟨w.roster.next⟩) fitted.center
    rw [hu]
    exact (congrArg Entry.id settled).trans (preset.id_build _)
  have frame : u.HasNextFrame := by
    rw [hu]
    exact GameUnit.hasNextFrame_settle (preset.hasNextFrame_build _) fitted.center
  obtain ⟨filed, index, put⟩ := h.exists_put .unit (e := .ofUnit u)
    (congrArg EntityId.number hid) nofun
  have spawn : w.spawnUnit (fun id => .ok (preset.build id))
      = if filed then
          .ok (some u.id, { w with
            roster := Roster.setUnit u { w.roster with next := w.roster.next + 1 }, index })
        else .ok (none, { w with roster := { w.roster with next := w.roster.next + 1 } }) := by
    have drafted : w.roster.draftUnit (fun id => .ok (preset.build id))
        = .ok (preset.build ⟨w.roster.next⟩, { w.roster with next := w.roster.next + 1 }) := by
      rw [Roster.draftUnit, issue]
      exact if_pos (preset.id_build _)
    rw [World.spawnUnit, drafted, Checked.ok_bind]
    dsimp only
    rw [clamped, Checked.ok_bind, ← hu, put, Checked.ok_bind]
  cases filed with
  | true =>
    rw [if_pos rfl] at spawn
    refine ⟨_, _, spawn, h.of_issue (h.inStep.spawnUnit spawn) rfl next ?_ ?_⟩
    · intro id u' found
      rw [Roster.unit?_setUnit] at found
      split at found
      case isTrue => exact Option.some.inj found ▸ frame
      case isFalse => exact h.steady found
    · intro kind id e held
      rw [Roster.owned?_setUnit] at held
      split at held
      case isTrue eq => exact .inl (congrArg EntityId.number (eq.2.trans hid))
      case isFalse => exact .inr held
  | false =>
    rw [if_neg Bool.false_ne_true] at spawn
    exact ⟨_, _, spawn, h.of_issue (h.inStep.spawnUnit spawn) rfl next h.steady
      fun kind id e held => .inr held⟩

/-- A piece of debris is built, clamped and filed unless the map is too small. -/
theorem Playable.exists_spawnDebris (h : w.Playable issued) (left : issued + 2 < UInt32.size)
    (pos : Point) (color : UInt32) : ∃ spawned w',
      w.spawnParticle (fun id => .ok (.debris id pos color)) = .ok (spawned, w') ∧
        w'.Playable (issued + 1) := by
  obtain ⟨issue, next⟩ := h.issue_eq left
  obtain ⟨area, bounds, room⟩ := h.room
  have modest := Footprint.isModest_ofDiameter 8
  obtain ⟨fitted, clamped⟩ := Map.exists_clamp
    (b := (Particle.debris ⟨w.roster.next⟩ pos color).bounds) bounds room modest.wide modest.tall
  obtain ⟨p, hp⟩ : ∃ p, p = Particle.project w.map.view
    { Particle.debris ⟨w.roster.next⟩ pos color with pos := fitted.center } := ⟨_, rfl⟩
  have hid : p.id = ⟨w.roster.next⟩ := by rw [hp]; rfl
  obtain ⟨filed, index, put⟩ := h.exists_put .particle (e := .ofParticle p)
    (congrArg EntityId.number hid) (fun _ => rfl)
  have spawn : w.spawnParticle (fun id => .ok (.debris id pos color))
      = if filed then
          .ok (some p.id, { w with
            roster := Roster.setParticle p { w.roster with next := w.roster.next + 1 }, index })
        else .ok (none, { w with roster := { w.roster with next := w.roster.next + 1 } }) := by
    have drafted : w.roster.draftParticle (fun id => .ok (.debris id pos color))
        = .ok (.debris ⟨w.roster.next⟩ pos color,
          { w.roster with next := w.roster.next + 1 }) := by
      rw [Roster.draftParticle, issue]
      exact if_pos rfl
    rw [World.spawnParticle, drafted, Checked.ok_bind]
    dsimp only
    rw [clamped, Checked.ok_bind, ← hp, put, Checked.ok_bind]
  cases filed with
  | true =>
    rw [if_pos rfl] at spawn
    refine ⟨_, _, spawn, h.of_issue (h.inStep.spawnParticle spawn) rfl next h.steady ?_⟩
    intro kind id e held
    rw [Roster.owned?_setParticle] at held
    split at held
    case isTrue eq => exact .inl (congrArg EntityId.number (eq.2.trans hid))
    case isFalse => exact .inr held
  | false =>
    rw [if_neg Bool.false_ne_true] at spawn
    exact ⟨_, _, spawn, h.of_issue (h.inStep.spawnParticle spawn) rfl next h.steady
      fun kind id e held => .inr held⟩

/-! ### Playing -/

/-- An operation has no fault, and the world can be played on. -/
theorem Playable.exists_perform {op : Op} (h : w.Playable issued) (presets : op.UsesPresets)
    (left : op.isSpawn → issued + 2 < UInt32.size) :
    ∃ reply w', op.perform w = .ok (reply, w') ∧
      w'.Playable (issued + if op.isSpawn then 1 else 0) := by
  have s := h.inStep
  cases op with
  | spawnUnit build =>
    obtain ⟨preset, rfl⟩ := presets
    obtain ⟨spawned, w', spawn, playable⟩ := h.exists_spawnUnit (left rfl) preset
    exact ⟨_, w', by rw [Op.perform, spawn, Checked.map_ok], playable⟩
  | spawnParticle build =>
    obtain ⟨pos, color, rfl⟩ := presets
    obtain ⟨spawned, w', spawn, playable⟩ := h.exists_spawnDebris (left rfl) pos color
    exact ⟨_, w', by rw [Op.perform, spawn, Checked.map_ok], playable⟩
  | erase id =>
    obtain ⟨erased, w', done, c⟩ := s.exists_erase id
    exact ⟨_, w', by rw [Op.perform, done, Checked.map_ok], h.continues (s.erase done) c⟩
  | eraseParticle id =>
    obtain ⟨erased, w', done, c⟩ := s.exists_eraseParticle id
    exact ⟨_, w', by rw [Op.perform, done, Checked.map_ok], h.continues (s.eraseParticle done) c⟩
  | moveUnit id target shift =>
    obtain ⟨ordered, w', done, c⟩ := s.exists_moveUnit id target shift
    exact ⟨_, w', by rw [Op.perform, done, Checked.map_ok], h.continues (s.moveUnit done) c⟩
  | relocate id target =>
    obtain ⟨filed, w', done, c⟩ := s.exists_relocate id target
    exact ⟨_, w', by rw [Op.perform, done, Checked.map_ok], h.continues (s.relocate done) c⟩
  | relocateParticle id target =>
    obtain ⟨filed, w', done, c⟩ := s.exists_relocateParticle id target
    exact ⟨_, w', by rw [Op.perform, done, Checked.map_ok],
      h.continues (s.relocateParticle done) c⟩
  | damage id amount =>
    exact ⟨_, _, rfl, h.continues (s.damage id amount) (s.continues_damage id amount)⟩
  | harvest id request =>
    exact ⟨_, _, rfl, h.continues (s.harvest id request) (s.continues_harvest id request)⟩
  | query kind region =>
    obtain ⟨ids, listed, -⟩ := s.query kind region
    exact ⟨_, w, by rw [Op.perform, listed, Checked.map_ok], h⟩
  | rebuildIndex =>
    obtain ⟨w', done, c⟩ := s.exists_rebuildIndex
    exact ⟨_, w', by rw [Op.perform, done, Checked.map_ok], h.continues (s.rebuildIndex done) c⟩
  | reshapeViewport x y width height =>
    exact ⟨_, _, rfl, h.continues (s.reshapeViewport x y width height) ⟨.refl w.roster, rfl⟩⟩
  | select id =>
    exact ⟨_, _, rfl, h.continues (s.select id) ⟨.refl w.roster, rfl⟩⟩
  | selectAt screen =>
    obtain ⟨w', done, c⟩ := s.exists_selectAt screen
    exact ⟨_, w', by rw [Op.perform, done, Checked.map_ok], h.continues (s.selectAt done) c⟩
  | tick =>
    obtain ⟨t, done, c⟩ := s.exists_tick h.steady
    exact ⟨_, t.world, by rw [Op.perform, done, Checked.map_ok], h.continues (s.tick done) c⟩
  | cull =>
    obtain ⟨roster, done, projected⟩ := s.exists_cull
    exact ⟨_, _, by rw [Op.perform, done, Checked.map_ok],
      h.continues (s.cull done) (InStep.continues_of_projected projected)⟩
  | draw list => exact ⟨_, w, rfl, h⟩
  | frame =>
    obtain ⟨f, done, c⟩ := s.exists_frame h.steady
    exact ⟨_, f.world, by rw [Op.perform, done, Checked.map_ok], h.continues (s.frame done) c⟩

/-- A run has no fault as long as the ids do not run out. -/
theorem Playable.exists_run {ops : List Op} (h : w.Playable issued)
    (presets : ∀ op ∈ ops, op.UsesPresets)
    (left : issued + ops.countP Op.isSpawn + 1 < UInt32.size) :
    ∃ replies w', run ops w = .ok (replies, w') := by
  induction ops generalizing w issued with
  | nil => exact ⟨[], w, rfl⟩
  | cons op ops ih =>
    rw [List.countP_cons] at left
    have room : op.isSpawn → issued + 2 < UInt32.size := by
      intro spawns
      rw [if_pos spawns] at left
      omega
    obtain ⟨reply, w₁, performed, h₁⟩ := h.exists_perform (presets op List.mem_cons_self) room
    obtain ⟨replies, w', ran⟩ :=
      ih h₁ (fun op mem => presets op (List.mem_cons_of_mem _ mem)) (by omega)
    refine ⟨reply.toList ++ replies, w', ?_⟩
    rw [run, performed, Checked.ok_bind]
    dsimp only
    rw [ran, Checked.ok_bind]

/-- An empty world over a map that is not too large can be played on. -/
theorem playable_onMap {map : Map} (capacity : Nat) (wide : map.grid.width.toNat < 2 ^ 26)
    (tall : map.grid.height.toNat < 2 ^ 26) :
    ∃ w, World.onMap map capacity = .ok w ∧ w.Playable 0 := by
  obtain ⟨area, bounds, room⟩ := Map.exists_bounds wide tall
  have started : World.onMap map capacity
      = .ok { map, roster := .empty, index := .empty area capacity, selected := none } := by
    rw [World.onMap, bounds, Checked.ok_bind]
  refine ⟨_, started, .onMap started, ⟨area, bounds, room⟩, ?_, rfl, ?_⟩
  · intro id u found
    have missing : Roster.empty.unit? id = none := Std.ExtTreeMap.getElem?_empty
    rw [missing] at found
    cases found
  · intro kind id e held
    rw [Roster.owned?_empty] at held
    cases held

/-- Playing on a map of less than `2 ^ 26` columns and rows has no fault, as long as entities come
from presets and at most `2 ^ 32 - 2` ids are taken. -/
theorem exists_run_of_usesPresets {map : Map} (capacity : Nat) {ops : List Op}
    (wide : map.grid.width.toNat < 2 ^ 26) (tall : map.grid.height.toNat < 2 ^ 26)
    (presets : ∀ op ∈ ops, op.UsesPresets) (ids : ops.countP Op.isSpawn ≤ 2 ^ 32 - 2) :
    ∃ w replies w', onMap map capacity = .ok w ∧ run ops w = .ok (replies, w') := by
  obtain ⟨w, started, playable⟩ := playable_onMap capacity wide tall
  have left : 0 + ops.countP Op.isSpawn + 1 < UInt32.size := by
    have size : UInt32.size = 2 ^ 32 := rfl
    omega
  obtain ⟨replies, w', ran⟩ := playable.exists_run presets left
  exact ⟨w, replies, w', started, ran⟩

/-- A villager is sent beyond the end of the coordinate range, a giant does not fit, and the screen
is put to the far corner of the range. -/
def expedition : List Op :=
  [.spawnUnit fun id => .ok ((UnitPreset.villager ⟨40, 40⟩ 1).build id),
    .spawnUnit fun id => .ok ((UnitPreset.mobile 1 ⟨-5, 7⟩ 0x7FFFFFFF .villagerStand .villagerWalk 2
      1000000000).build id),
    .spawnParticle fun id => .ok (.debris id ⟨-2147483648, 2147483647⟩ 3),
    .moveUnit ⟨1⟩ ⟨2147483647, -2147483648⟩ ⟨-2147483648, 2147483647⟩, .tick,
    .relocate ⟨1⟩ ⟨-2147483648, -2147483648⟩, .damage ⟨1⟩ 4294967295,
    .reshapeViewport 2147483647 2147483647 2147483647 2147483647, .rebuildIndex,
    .selectAt ⟨-2147483648, 0⟩, .erase ⟨2⟩, .frame]

theorem exists_run_expedition : ∃ w replies w', onMap (Map.empty.resize .small) 1 = .ok w ∧
    run expedition w = .ok (replies, w') := by
  refine exists_run_of_usesPresets 1 (by decide) (by decide) ?_ (by decide)
  intro op mem
  simp only [expedition, List.mem_cons, List.not_mem_nil, or_false] at mem
  rcases mem with rfl | rfl | rfl | rfl | rfl | rfl | rfl | rfl | rfl | rfl | rfl | rfl
  · exact ⟨_, rfl⟩
  · exact ⟨_, rfl⟩
  · exact ⟨_, _, rfl⟩
  all_goals exact trivial

end World

end Skirmish
