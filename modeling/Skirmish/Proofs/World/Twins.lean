import Skirmish.Proofs.World.Runs
import Skirmish.Proofs.World.Selection

/-!
# The shape of the index does not show

Two worlds over the same map may have indexes of different capacities, and their indexes may be
rebuilt at different times.  Whatever is done to both of them, they reply alike, fault alike, and
own the same entities afterwards.

The nodes are listed in another order, so a query finds the same ids in another order.  All but one
of the consumers sort what they are given; a click does not, and finds the same unit anyway.

## Main definitions

* `World.SameFace` — two worlds that differ at most in their indexes.
* `World.Twins` — two such worlds in step.
* `World.observe` — what can be seen of a run.

## Main results

* `Twins.put`, `Twins.update`, `Twins.indexErase`, `Twins.query`, `Twins.mobileIds` — the two
  indexes say the same.
* `Twins.perform` — an operation on twins.
* `observe_eq_of_played_eq` — two runs that differ in the capacity and in when the index is rebuilt.
-/

namespace Skirmish

namespace World

open Checked (Related)

/-- Two worlds that differ at most in their indexes. -/
structure SameFace (w v : World) : Prop where
  map : v.map = w.map
  roster : v.roster = w.roster
  selected : v.selected = w.selected

/-- The same reply, and worlds that differ at most in their indexes. -/
def SameReply {α : Type} (r r' : α × World) : Prop := r.1 = r'.1 ∧ SameFace r.2 r'.2

/-- Two worlds in step that differ at most in their indexes. -/
structure Twins (w v : World) : Prop extends SameFace w v where
  left : w.InStep
  right : v.InStep

variable {w v : World}

/-! ### Without the index -/

theorem SameFace.moveUnit (h : SameFace w v) (id : EntityId) (target shift : Point) :
    Related SameReply (w.moveUnit id target shift) (v.moveUnit id target shift) := by
  simp only [World.moveUnit, World.unit?, h.map, h.roster, h.selected]
  cases w.roster.unit? id with
  | none => exact ⟨rfl, h⟩
  | some u =>
    refine Related.bind_self ?_
    intro fitted
    cases u.order? fitted.center shift with
    | none => exact ⟨rfl, h⟩
    | some u' => exact ⟨rfl, rfl, rfl, rfl⟩

theorem SameFace.damage (h : SameFace w v) (id : EntityId) (amount : UInt32) :
    SameReply (w.damage id amount) (v.damage id amount) := by
  simp only [World.damage, World.unit?, h.map, h.roster, h.selected]
  cases w.roster.unit? id with
  | none => exact ⟨rfl, h⟩
  | some u => exact ⟨rfl, rfl, rfl, rfl⟩

theorem SameFace.harvest (h : SameFace w v) (id : EntityId) (request : UInt32) :
    SameReply (w.harvest id request) (v.harvest id request) := by
  simp only [World.harvest, World.unit?, h.map, h.roster, h.selected]
  cases (w.roster.unit? id).bind (GameUnit.harvest? request) with
  | none => exact ⟨rfl, h⟩
  | some taken => exact ⟨rfl, rfl, rfl, rfl⟩

theorem SameFace.draw (h : SameFace w v) (list : DrawList) : v.draw list = w.draw list := by
  have units : v.unit? = w.unit? := by
    funext id
    rw [World.unit?, World.unit?, h.roster]
  have particles : v.particle? = w.particle? := by
    funext id
    rw [World.particle?, World.particle?, h.roster]
  rw [World.draw, World.draw, World.sprites, World.sprites, World.marker, World.marker, units,
    particles, h.map, h.selected]

namespace Twins

variable {kind : EntityKind} {id : EntityId}

theorem symm (h : Twins w v) : Twins v w :=
  ⟨⟨h.map.symm, h.roster.symm, h.selected.symm⟩, h.right, h.left⟩

/-! ### The two indexes -/

theorem area (h : Twins w v) : v.index.area = w.index.area := by
  have bounds := h.right.bounds
  rw [h.map, h.left.bounds] at bounds
  exact (Except.ok.inj bounds).symm

theorem exact (h : Twins w v) : w.index.area.Exact := h.left.inner.exact

theorem lookup? (h : Twins w v) (kind : EntityKind) (id : EntityId) :
    v.index.lookup? kind id = w.index.lookup? kind id := by
  rw [h.left.lookup?, h.right.lookup?, h.roster]

theorem put (h : Twins w v) {e : Entry} (still : kind = .particle → e.mobile = false) :
    Related (fun r r' => r.1 = r'.1) (w.index.put kind e) (v.index.put kind e) := by
  apply Related.of_map_eq
  rw [h.left.sound.map_put h.exact still, h.right.sound.map_put h.right.inner.exact still, h.area,
    h.lookup?]

theorem update (h : Twins w v) (kind : EntityKind) (id : EntityId) (box : Box) :
    Related (fun r r' => r.1 = r'.1) (w.index.update kind id box) (v.index.update kind id box) := by
  apply Related.of_map_eq
  rw [h.left.sound.map_update h.exact, h.right.sound.map_update h.right.inner.exact, h.area,
    h.lookup?]

theorem indexErase (h : Twins w v) (kind : EntityKind) (id : EntityId) :
    Related (fun r r' => r.1 = r'.1) (w.index.erase kind id) (v.index.erase kind id) := by
  obtain ⟨t, erased, -⟩ := h.left.sound.erase kind id
  obtain ⟨t', erased', -⟩ := h.right.sound.erase kind id
  rw [erased, erased', h.lookup?]
  exact Eq.refl _

theorem query (h : Twins w v) (kind : EntityKind) (region : Box) :
    v.query kind region = w.query kind region := by
  obtain ⟨ids, listed, ascending, mem⟩ := h.left.query kind region
  obtain ⟨ids', listed', ascending', mem'⟩ := h.right.query kind region
  rw [listed, listed']
  refine congrArg Except.ok (ascending'.eq_of_mem_iff ascending ?_)
  intro id
  rw [mem, mem', h.roster]

theorem mobileIds (h : Twins w v) : v.index.mobileIds = w.index.mobileIds := by
  refine h.right.sound.ascending_mobileIds.eq_of_mem_iff h.left.sound.ascending_mobileIds ?_
  intro id
  rw [h.right.sound.mem_mobileIds, h.left.sound.mem_mobileIds, h.lookup?]

/-! ### Operations -/

theorem spawnUnit (h : Twins w v) (build : EntityId → Except Fault GameUnit) :
    Related SameReply (w.spawnUnit build) (v.spawnUnit build) := by
  simp only [World.spawnUnit, h.map, h.roster, h.selected]
  refine Related.bind_self ?_
  rintro ⟨u, roster⟩
  refine Related.bind_self ?_
  intro fitted
  have still (hk : EntityKind.unit = .particle) (e : Entry) : e.mobile = false := by cases hk
  refine (h.put fun hk => still hk _).bind ?_
  rintro ⟨filed, index⟩ ⟨filed', index'⟩ (rfl : filed = filed')
  dsimp only
  split <;> exact ⟨rfl, rfl, rfl, rfl⟩

theorem spawnParticle (h : Twins w v) (build : EntityId → Except Fault Particle) :
    Related SameReply (w.spawnParticle build) (v.spawnParticle build) := by
  simp only [World.spawnParticle, h.map, h.roster, h.selected]
  refine Related.bind_self ?_
  rintro ⟨p, roster⟩
  refine Related.bind_self ?_
  intro fitted
  refine (h.put fun _ => rfl).bind ?_
  rintro ⟨filed, index⟩ ⟨filed', index'⟩ (rfl : filed = filed')
  dsimp only
  split <;> exact ⟨rfl, rfl, rfl, rfl⟩

theorem deselect (h : Twins w v) (id : EntityId) : Twins (w.deselect id) (v.deselect id) := by
  refine ⟨?_, h.left.deselect id, h.right.deselect id⟩
  simp only [World.deselect, h.selected]
  split
  · exact ⟨h.map, h.roster, rfl⟩
  · exact h.toSameFace

theorem erase (h : Twins w v) (id : EntityId) : Related SameReply (w.erase id) (v.erase id) := by
  have h := h.deselect id
  simp only [World.erase, World.unit?, h.map, h.roster, h.selected]
  refine (h.indexErase .unit id).bind ?_
  rintro ⟨filed, index⟩ ⟨filed', index'⟩ (rfl : filed = filed')
  exact ⟨rfl, rfl, rfl, rfl⟩

theorem eraseParticle (h : Twins w v) (id : EntityId) :
    Related SameReply (w.eraseParticle id) (v.eraseParticle id) := by
  simp only [World.eraseParticle, World.particle?, h.map, h.roster, h.selected]
  refine (h.indexErase .particle id).bind ?_
  rintro ⟨filed, index⟩ ⟨filed', index'⟩ (rfl : filed = filed')
  exact ⟨rfl, rfl, rfl, rfl⟩

theorem relocate (h : Twins w v) (id : EntityId) (target : Point) :
    Related SameReply (w.relocate id target) (v.relocate id target) := by
  simp only [World.relocate, World.unit?, h.map, h.roster, h.selected]
  cases w.roster.unit? id with
  | none => exact ⟨rfl, h.toSameFace⟩
  | some u =>
    refine Related.bind_self ?_
    intro fitted
    refine (h.update .unit _ _).bind ?_
    rintro ⟨filed, index⟩ ⟨filed', index'⟩ (rfl : filed = filed')
    exact ⟨rfl, rfl, rfl, rfl⟩

theorem relocateParticle (h : Twins w v) (id : EntityId) (target : Point) :
    Related SameReply (w.relocateParticle id target) (v.relocateParticle id target) := by
  simp only [World.relocateParticle, World.particle?, h.map, h.roster, h.selected]
  cases w.roster.particle? id with
  | none => exact ⟨rfl, h.toSameFace⟩
  | some p =>
    refine Related.bind_self ?_
    intro fitted
    refine (h.update .particle _ _).bind ?_
    rintro ⟨filed, index⟩ ⟨filed', index'⟩ (rfl : filed = filed')
    exact ⟨rfl, rfl, rfl, rfl⟩

/-- The candidates of a click come in another order. -/
theorem selectAt (h : Twins w v) (screen : Point) :
    Related SameFace (w.selectAt screen) (v.selectAt screen) := by
  -- each index lists the units in view in an order of its own
  obtain ⟨ids, found, -, mem⟩ := h.left.sound.query .unit w.map.view.box []
  obtain ⟨ids', found', -, mem'⟩ := h.right.sound.query .unit w.map.view.box []
  have same (id : EntityId) : id ∈ ids ↔ id ∈ ids' := by
    rw [mem, mem', h.lookup?]
  have considered := (considered_foldl w.map.view screen h.left.unit_id ids).unique
    (considered_foldl w.map.view screen h.left.unit_id ids') same
  simp only [World.selectAt, h.map, h.roster, found, found', Checked.ok_bind, List.nil_append,
    considered]
  exact ⟨rfl, rfl, rfl⟩

/-- A rebuilt index files the same. -/
theorem exists_rebuildIndex (h : Twins w v) : ∃ w₁, w.rebuildIndex = .ok w₁ ∧ Twins w₁ v := by
  obtain ⟨t, rebuilt, -⟩ := h.left.sound.rebuild.exists_ok (not_not_intro h.exact)
  have done : w.rebuildIndex = .ok { w with index := t } := by
    rw [World.rebuildIndex, rebuilt, Checked.ok_bind]
  exact ⟨_, done, ⟨h.map, h.roster, h.selected⟩, h.left.rebuildIndex done, h.right⟩

/-! ### Frames -/

theorem tickUnit (h : Twins w v) (u : GameUnit) :
    Related SameReply (w.tickUnit u) (v.tickUnit u) := by
  simp only [World.tickUnit, h.map, h.roster, h.selected]
  refine Related.bind_self ?_
  rintro ⟨u, moved⟩
  dsimp only
  split
  case isTrue =>
    refine Related.bind_self ?_
    intro fitted
    refine (h.update .unit _ _).bind ?_
    rintro ⟨filed, index⟩ ⟨filed', index'⟩ -
    exact ⟨rfl, rfl, rfl, rfl⟩
  case isFalse => exact ⟨rfl, rfl, rfl, rfl⟩

/-- The same counts, and twins. -/
def SameTicking (state state' : Ticking) : Prop :=
  state.ticked = state'.ticked ∧ state.moved = state'.moved ∧ Twins state.world state'.world

theorem step {state state' : Ticking} (h : SameTicking state state') (id : EntityId) :
    Related SameTicking (state.step id) (state'.step id) := by
  obtain ⟨ticked, moved, w⟩ := state
  obtain ⟨ticked', moved', v⟩ := state'
  obtain ⟨rfl, rfl, twins⟩ := h
  have twins : Twins w v := twins
  have units : v.unit? id = w.unit? id := by rw [World.unit?, World.unit?, twins.roster]
  simp only [Ticking.step, units]
  cases found : w.unit? id with
  | none => exact ⟨rfl, rfl, twins⟩
  | some u =>
    -- the worlds stay in step, so the rest of the fold runs on twins again
    have ticking := (twins.tickUnit u).and (fun r hr => twins.left.tickUnit found hr)
      (fun r hr => twins.right.tickUnit (units.trans found) hr)
    refine ticking.bind ?_
    rintro ⟨moved, w₁⟩ ⟨moved', v₁⟩ ⟨⟨rfl, face⟩, left, right⟩
    exact ⟨rfl, rfl, face, left, right⟩

/-- The units take their ticks in the same order. -/
theorem tick (h : Twins w v) : Related SameTicking w.tick v.tick := by
  rw [World.tick, World.tick, h.mobileIds]
  exact Related.foldlM (fun _ _ id same => step same id) ⟨rfl, rfl, h⟩

theorem cull (h : Twins w v) : Related SameReply w.cull v.cull := by
  simp only [World.cull, h.map, h.roster, h.selected, h.query]
  refine Related.bind_self fun particles => Related.bind_self ?_
  intro units
  exact ⟨rfl, rfl, rfl, rfl⟩

theorem frame (h : Twins w v) : Related
    (fun f f' => f.picture = f'.picture ∧ f.stats = f'.stats ∧ SameFace f.world f'.world)
    w.frame v.frame := by
  refine h.tick.bind ?_
  rintro ⟨ticked, moved, w₁⟩ ⟨ticked', moved', v₁⟩ ⟨rfl, rfl, h₁⟩
  refine h₁.cull.bind ?_
  rintro ⟨list, w₂⟩ ⟨list', v₂⟩ ⟨rfl, face⟩
  exact ⟨(face.draw list).symm, rfl, face⟩

end Twins

/-! ### Runs -/

/-- The same result of an operation makes the same reply. -/
theorem SameReply.reply {α : Type} {x x' : Except Fault (α × World)} (f : α → Reply)
    (h : Related SameReply x x') :
    Related SameReply (x.map fun r => (some (f r.1), r.2)) (x'.map fun r => (some (f r.1), r.2)) := by
  refine h.map ?_
  intro r r' same
  obtain ⟨result, face⟩ := same
  exact ⟨congrArg (fun a => some (f a)) result, face⟩

/-- An operation on twins. -/
theorem Twins.perform (h : Twins w v) (op : Op) :
    Related (fun r r' => r.1 = r'.1 ∧ Twins r.2 r'.2) (op.perform w) (op.perform v) := by
  have face : Related SameReply (op.perform w) (op.perform v) := by
    cases op with
    | spawnUnit build => exact SameReply.reply .spawned (h.spawnUnit build)
    | spawnParticle build => exact SameReply.reply .spawned (h.spawnParticle build)
    | erase id => exact SameReply.reply .done (h.erase id)
    | eraseParticle id => exact SameReply.reply .done (h.eraseParticle id)
    | moveUnit id target shift => exact SameReply.reply .done (h.toSameFace.moveUnit id target shift)
    | relocate id target => exact SameReply.reply .done (h.relocate id target)
    | relocateParticle id target => exact SameReply.reply .done (h.relocateParticle id target)
    | damage id amount =>
      obtain ⟨reply, face⟩ := h.damage id amount
      exact ⟨congrArg (fun died => some (Reply.killed died)) reply, face⟩
    | harvest id request =>
      obtain ⟨reply, face⟩ := h.harvest id request
      exact ⟨congrArg (fun amount => some (Reply.taken amount)) reply, face⟩
    | query kind region =>
      rw [Op.perform, Op.perform, h.query]
      refine (Related.refl (w.query kind region)).map ?_
      rintro ids _ rfl
      exact ⟨rfl, h.toSameFace⟩
    | rebuildIndex =>
      obtain ⟨w₁, rebuilt, h₁⟩ := h.exists_rebuildIndex
      obtain ⟨v₁, rebuilt', h₂⟩ := h₁.symm.exists_rebuildIndex
      rw [Op.perform, Op.perform, rebuilt, rebuilt']
      exact ⟨rfl, h₂.symm.toSameFace⟩
    | reshapeViewport x y width height =>
      exact ⟨rfl, congrArg (Map.reshape x y width height) h.map, h.roster, h.selected⟩
    | select id =>
      refine ⟨rfl, h.map, h.roster, ?_⟩
      simp only [World.select, World.unit?, h.roster]
    | selectAt screen =>
      refine (h.selectAt screen).map ?_
      intro w₁ v₁ face
      exact ⟨by rw [face.selected], face⟩
    | tick =>
      refine h.tick.map ?_
      intro state state' same
      obtain ⟨ticked, moved, twins⟩ := same
      exact ⟨by rw [ticked, moved], twins.toSameFace⟩
    | cull => exact SameReply.reply .culled h.cull
    | draw list => exact ⟨by rw [h.draw], h.toSameFace⟩
    | frame =>
      refine h.frame.map ?_
      intro f f' same
      obtain ⟨picture, stats, face⟩ := same
      exact ⟨by rw [picture, stats], face⟩
  refine (face.and (fun r hr => h.left.perform hr) fun r hr => h.right.perform hr).mono ?_
  intro r r' related
  obtain ⟨⟨reply, face⟩, left, right⟩ := related
  exact ⟨reply, face, left, right⟩

/-- Whether an operation only tends the index. -/
def Op.isMaintenance : Op → Bool
  | rebuildIndex => true
  | _ => false

/-- The operations of a run without those that only tend the index. -/
def played (ops : List Op) : List Op := ops.filter fun op => !op.isMaintenance

/-- What can be seen of a run: the replies, and the world but for its index. -/
def observe (ops : List Op) (w : World) :
    Except Fault (List Reply × Map × Roster × Option EntityId) :=
  (run ops w).map fun r => (r.1, r.2.map, r.2.roster, r.2.selected)

/-- A run, and the same run without maintenance on a twin. -/
theorem Twins.run_played (h : Twins w v) (ops : List Op) :
    Related SameReply (run ops w) (run (played ops) v) := by
  induction ops generalizing w v with
  | nil => exact ⟨rfl, h.toSameFace⟩
  | cons op ops ih =>
    by_cases maintenance : op.isMaintenance
    · obtain rfl : op = .rebuildIndex := by
        cases op <;> first | rfl | cases maintenance
      -- one world is rebuilt while the other one waits
      obtain ⟨w₁, rebuilt, h₁⟩ := h.exists_rebuildIndex
      have skip : played (.rebuildIndex :: ops) = played ops := rfl
      rw [skip, run, Op.perform, rebuilt, Checked.map_ok, Checked.ok_bind]
      dsimp only
      have same := ih h₁
      cases ran : run ops w₁ with
      | ok r =>
        rw [ran] at same
        exact same
      | error fault =>
        rw [ran] at same
        exact same
    · -- both worlds take the operation
      have keep : played (op :: ops) = op :: played ops := by
        rw [played, List.filter_cons, if_pos (by simpa using maintenance)]
        rfl
      rw [keep, run, run]
      refine (h.perform op).bind ?_
      rintro ⟨reply, w₁⟩ ⟨reply', v₁⟩ ⟨rfl, h₁⟩
      refine (ih h₁).bind ?_
      rintro ⟨replies, w₂⟩ ⟨replies', v₂⟩ ⟨rfl, face⟩
      exact ⟨rfl, face⟩

theorem Twins.observe_played (h : Twins w v) (ops : List Op) :
    observe ops w = observe (played ops) v := by
  refine Related.map_eq ((h.run_played ops).mono ?_)
  intro r r' same
  obtain ⟨replies, face⟩ := same
  rw [replies, face.map, face.roster, face.selected]

theorem twins_onMap {map : Map} {capacity capacity' : Nat}
    (started : World.onMap map capacity = .ok w) (started' : World.onMap map capacity' = .ok v) :
    Twins w v := by
  refine ⟨?_, .onMap started, .onMap started'⟩
  obtain ⟨area, -, rfl⟩ := of_onMap started
  obtain ⟨area', -, rfl⟩ := of_onMap started'
  exact ⟨rfl, rfl, rfl⟩

/-- Two runs over the same map, whose indexes have any two capacities and are rebuilt at any times,
cannot be told apart: they give the same replies, or the same fault, and own the same entities. -/
theorem observe_eq_of_played_eq (map : Map) (capacity capacity' : Nat) {ops ops' : List Op}
    (same : played ops = played ops') :
    (onMap map capacity >>= observe ops) = (onMap map capacity' >>= observe ops') := by
  cases bounds : map.bounds with
  | error fault => simp only [World.onMap, bounds, Checked.error_bind]
  | ok area =>
    have start (c : Nat) : ∃ w, World.onMap map c = .ok w := by
      rw [World.onMap, bounds]
      exact ⟨_, rfl⟩
    obtain ⟨w, started⟩ := start capacity
    obtain ⟨v, started'⟩ := start capacity'
    rw [started, started', Checked.ok_bind, Checked.ok_bind]
    calc
      observe ops w = observe (played ops) v := (twins_onMap started started').observe_played ops
      _ = observe (played ops') v := by rw [same]
      _ = observe ops' v := ((twins_onMap started' started').observe_played ops').symm

/-- An outing in an index of the least capacity, rebuilt at first, and in one of the usual capacity,
which is not split. -/
theorem observe_outing_eq :
    (onMap (Map.empty.resize .small) 0 >>= observe (.rebuildIndex :: outing)).map Prod.fst
        = .ok [.spawned (some ⟨1⟩), .spawned (some ⟨2⟩), .spawned (some ⟨3⟩), .done true,
          .done true] ∧
      (onMap (Map.empty.resize .small) 0 >>= observe (.rebuildIndex :: outing))
        = (onMap (Map.empty.resize .small) 8 >>= observe outing) :=
  ⟨by decide +kernel, observe_eq_of_played_eq (Map.empty.resize .small) 0 8 rfl⟩

end World

end Skirmish
