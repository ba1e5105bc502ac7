import Mathlib.Algebra.BigOperators.Group.List.Basic
import Mathlib.Algebra.Ring.Nat
import Mathlib.Data.List.Perm.Basic
import Skirmish.Proofs.Session.Driver
import Skirmish.Proofs.World.Health

/-!
# Deaths

A session announces a unit in the update in which it dies.  The dead stay in the world and may be
damaged again, and so may units that have been removed or were never there, but no unit is announced
twice: a death is one step of the match, and the id is spent from then on.

Within one update the order of the damage does not matter.  A unit is left with what the sum of all
damage leaves, and it is announced exactly if it had been alive and is dead now.

## Main definitions

* `Beat` — the steps of a match: an order, or a frame.
* `Session.play` — updates in a row, with orders sent before each of them.
* `World.Wounds` — all that the damage of one update does.
* `Order.SameButDamage` — orders that differ in the order of the damage.

## Main results

* `Beat.mem_died_iff` — a beat announces the units that die in it.
* `Beat.count_died` — no unit is announced twice.
* `Session.of_play` — updates play their orders beat by beat.
* `Mail.wounds_foldl` — damage adds up.
* `Session.deaths_of_play` — the deaths of a session.
-/

namespace Skirmish

/-! ### Beats -/

/-- A step of a match: an order is carried out, or a frame passes. -/
inductive Beat where
  | order (o : Order)
  | frame

namespace Beat

/-- Play one beat.  The first component names the unit that died in it, if one did. -/
def play : Beat → World → Except Fault (List EntityId × World)
  | order o, w => o.apply w
  | frame, w => w.frame.map fun f => ([], f.world)

/-- Play beats in a row, and list the deaths. -/
def playAll : List Beat → World → Except Fault (List EntityId × World)
  | [], w => .ok ([], w)
  | beat :: beats, w => do
    let now ← beat.play w
    let later ← playAll beats now.2
    .ok (now.1 ++ later.1, later.2)

/-- The beats of one update. -/
def ofBatch (orders : List Order) : List Beat := (Order.inStages orders).map order ++ [frame]

/-- The operation that a beat comes to. -/
def op (w : World) : Beat → World.Op
  | order (.despawn id) => if (w.unit? id).isSome then .erase id else .eraseParticle id
  | order (.spawn ⟨pos, .villager color⟩) => .spawnUnit fun id => .ok (.villager id pos color)
  | order (.spawn ⟨pos, .resource kind⟩) => .spawnUnit fun id => .ok (.resource id pos kind)
  | order (.spawn ⟨pos, .building kind color⟩) =>
    .spawnUnit fun id => .ok (.building id pos kind color)
  | order (.spawn ⟨pos, .debris color⟩) => .spawnParticle fun id => .ok (.debris id pos color)
  | order (.move ⟨id, target, shift⟩) => .moveUnit id target shift
  | order (.damage ⟨id, amount⟩) => .damage id amount
  | order (.view ⟨x, y, width, height⟩) => .reshapeViewport x y width height
  | order (.click screen) => .selectAt screen
  | frame => .frame

end Beat

namespace World

variable {w w₁ w' : World} {id : EntityId}

/-- The unit whose death the reply to an operation tells of. -/
def Op.died : Op → Option Reply → List EntityId
  | damage id _, some (.killed (some true)) => [id]
  | _, _ => []

theorem Op.mem_died_iff {op : Op} {reply : Option Reply} :
    id ∈ op.died reply ↔ ∃ amount, op = .damage id amount ∧ reply = some (.killed (some true)) := by
  unfold died
  split
  case h_1 id' amount =>
    rw [List.mem_singleton]
    constructor
    · rintro rfl
      exact ⟨amount, rfl, rfl⟩
    · rintro ⟨amount', eq, -⟩
      exact ((Op.damage.inj eq).1).symm
  case h_2 other =>
    refine iff_of_false List.not_mem_nil ?_
    rintro ⟨amount, rfl, rfl⟩
    exact other id amount rfl rfl

theorem Op.nodup_died (op : Op) (reply : Option Reply) : (op.died reply).Nodup := by
  unfold died
  split
  case h_1 => exact List.nodup_singleton _
  case h_2 => exact List.nodup_nil

end World

namespace Beat

variable {w w₁ w' : World} {beat : Beat} {beats : List Beat} {died : List EntityId} {id : EntityId}

theorem isHonest_op (w : World) (beat : Beat) : (beat.op w).IsHonest := by
  unfold op
  split
  case h_1 => split <;> trivial
  case h_2 | h_3 | h_4 =>
    rintro id u built
    exact Except.ok.inj built ▸ .create ..
  all_goals trivial

/-- An operation whose reply tells of no death. -/
private theorem map_quiet {α : Type} (x : Except Fault α) (f : α → Option World.Reply × World)
    (o : World.Op) (quiet : ∀ a, o.died (f a).1 = []) :
    (x.map fun a => (([] : List EntityId), (f a).2)) = (x.map f).map fun r => (o.died r.1, r.2) := by
  cases x with
  | error fault => rfl
  | ok a => rw [Checked.map_ok, Checked.map_ok, Checked.map_ok, quiet]

/-- A beat does what its operation does, and announces the death that the reply tells of. -/
theorem play_eq (w : World) (beat : Beat) :
    beat.play w = ((beat.op w).perform w).map fun r => ((beat.op w).died r.1, r.2) := by
  match beat with
  | order (.despawn id) =>
    rw [play, Order.apply, op]
    split
    case isTrue =>
      exact map_quiet _ (fun r : Bool × World => (some (.done r.1), r.2)) (.erase id) fun _ => rfl
    case isFalse =>
      exact map_quiet _ (fun r : Bool × World => (some (.done r.1), r.2))
        (.eraseParticle id) fun _ => rfl
  | order (.spawn ⟨pos, .villager color⟩) =>
    exact map_quiet _ (fun r : Option EntityId × World => (some (.spawned r.1), r.2))
      (.spawnUnit _) fun _ => rfl
  | order (.spawn ⟨pos, .resource kind⟩) =>
    exact map_quiet _ (fun r : Option EntityId × World => (some (.spawned r.1), r.2))
      (.spawnUnit _) fun _ => rfl
  | order (.spawn ⟨pos, .building kind color⟩) =>
    exact map_quiet _ (fun r : Option EntityId × World => (some (.spawned r.1), r.2))
      (.spawnUnit _) fun _ => rfl
  | order (.spawn ⟨pos, .debris color⟩) =>
    exact map_quiet _ (fun r : Option EntityId × World => (some (.spawned r.1), r.2))
      (.spawnParticle _) fun _ => rfl
  | order (.move ⟨id, target, shift⟩) =>
    exact map_quiet _ (fun r : Bool × World => (some (.done r.1), r.2))
      (.moveUnit id target shift) fun _ => rfl
  | order (.damage ⟨id, amount⟩) =>
    have same (killed : Option Bool) : (World.Op.damage id amount).died (some (.killed killed))
        = if killed = some true then [id] else [] := by
      cases killed with
      | none => rfl
      | some killed => cases killed <;> rfl
    rw [play, Order.apply, op, World.Op.perform, Checked.map_ok, same]
  | order (.view ⟨x, y, width, height⟩) => rfl
  | order (.click screen) =>
    exact map_quiet _ (fun w : World => (some (.picked w.selected), w))
      (.selectAt screen) fun _ => rfl
  | frame =>
    exact map_quiet _ (fun f : World.Framed => (some (.framed f.picture f.stats), f.world)) .frame
      fun _ => rfl

theorem exists_perform (played : beat.play w = .ok (died, w')) :
    ∃ reply, (beat.op w).perform w = .ok (reply, w') ∧ died = (beat.op w).died reply := by
  rw [play_eq] at played
  obtain ⟨⟨reply, w₁⟩, performed, rfl, rfl⟩ := Checked.of_map_eq_ok played
  exact ⟨reply, performed, rfl⟩

/-- Only damage comes to damage. -/
theorem op_eq_damage_iff {amount : UInt32} :
    beat.op w = .damage id amount ↔ beat = order (.damage ⟨id, amount⟩) := by
  constructor
  · intro h
    unfold op at h
    split at h
    case h_1 => split at h <;> cases h
    case h_7 =>
      obtain ⟨rfl, rfl⟩ := World.Op.damage.inj h
      rfl
    all_goals cases h
  · rintro rfl
    rfl

/-- A beat announces the units that die in it. -/
theorem mem_died_iff (h : w.Numbered) (played : beat.play w = .ok (died, w')) :
    id ∈ died ↔ w.Fells w' id := by
  obtain ⟨reply, performed, rfl⟩ := exists_perform played
  rw [World.Op.mem_died_iff, h.fells_iff performed]

/-- A unit that dies in a beat dies of damage. -/
theorem eq_damage_of_fells (h : w.Numbered) (played : beat.play w = .ok (died, w'))
    (fells : w.Fells w' id) : ∃ amount, beat = order (.damage ⟨id, amount⟩) := by
  obtain ⟨reply, performed, -⟩ := exists_perform played
  obtain ⟨amount, damages, -⟩ := (h.fells_iff performed).mp fells
  exact ⟨amount, op_eq_damage_iff.mp damages⟩

/-! ### Beats in a row -/

theorem playAll_append (beats beats' : List Beat) (w : World) :
    playAll (beats ++ beats') w = (do
      let now ← playAll beats w
      let later ← playAll beats' now.2
      .ok (now.1 ++ later.1, later.2)) := by
  induction beats generalizing w with
  | nil =>
    rw [List.nil_append, playAll, Checked.ok_bind]
    cases playAll beats' w <;> rfl
  | cons beat beats ih =>
    rw [List.cons_append, playAll, playAll]
    cases beat.play w with
    | error fault => rfl
    | ok r =>
      rw [Checked.ok_bind, Checked.ok_bind, ih]
      cases playAll beats r.2 with
      | error fault => rfl
      | ok r' =>
        rw [Checked.ok_bind, Checked.ok_bind, Checked.ok_bind]
        cases playAll beats' r'.2 with
        | error fault => rfl
        | ok r'' =>
          rw [Checked.ok_bind, Checked.ok_bind, Checked.ok_bind, List.append_assoc]

theorem playAll_cons_eq_ok (played : playAll (beat :: beats) w = .ok (died, w')) :
    ∃ first w₁ others, beat.play w = .ok (first, w₁) ∧ playAll beats w₁ = .ok (others, w') ∧
      died = first ++ others := by
  simp only [playAll, Checked.bind_eq_ok_iff, Except.ok.injEq, Prod.mk.injEq] at played
  obtain ⟨⟨first, w₁⟩, now, ⟨others, w₂⟩, later, rfl, rfl⟩ := played
  exact ⟨first, w₁, others, now, later, rfl⟩

/-- Beats stay within the worlds that can be reached. -/
theorem reachableBy_playAll (h : w.ReachableBy World.Op.IsHonest)
    (played : playAll beats w = .ok (died, w')) : w'.ReachableBy World.Op.IsHonest := by
  induction beats generalizing w died with
  | nil =>
    obtain ⟨-, rfl⟩ := Prod.mk.inj (Except.ok.inj played)
    exact h
  | cons beat beats ih =>
    obtain ⟨first, w₁, others, now, later, -⟩ := playAll_cons_eq_ok played
    obtain ⟨reply, performed, -⟩ := exists_perform now
    exact ih (h.perform (isHonest_op w beat) performed) later

/-- A unit whose id is spent is not announced. -/
theorem not_mem_died_of_spent (h : w.Numbered) (spent : w.Spent id)
    (played : playAll beats w = .ok (died, w')) : id ∉ died := by
  induction beats generalizing w died with
  | nil =>
    obtain ⟨rfl, -⟩ := Prod.mk.inj (Except.ok.inj played)
    exact List.not_mem_nil
  | cons beat beats ih =>
    obtain ⟨first, w₁, others, now, later, rfl⟩ := playAll_cons_eq_ok played
    obtain ⟨reply, performed, -⟩ := exists_perform now
    rw [List.mem_append, not_or, mem_died_iff h now]
    exact ⟨spent.not_fells, ih (h.perform performed).1 (h.spent_perform performed spent) later⟩

/-- No unit is announced twice. -/
theorem nodup_died (h : w.Numbered) (played : playAll beats w = .ok (died, w')) : died.Nodup := by
  induction beats generalizing w died with
  | nil =>
    obtain ⟨rfl, -⟩ := Prod.mk.inj (Except.ok.inj played)
    exact List.nodup_nil
  | cons beat beats ih =>
    obtain ⟨first, w₁, others, now, later, rfl⟩ := playAll_cons_eq_ok played
    obtain ⟨reply, performed, eq⟩ := exists_perform now
    have numbered := (h.perform performed).1
    refine List.nodup_append'.mpr ⟨eq ▸ World.Op.nodup_died _ _, ih numbered later, ?_⟩
    -- whoever has been announced is spent
    intro id mem
    exact not_mem_died_of_spent numbered (((mem_died_iff h now).mp mem).spent numbered) later

/-- The units that are announced are those that some damage on the way has killed. -/
theorem mem_playAll_iff (h : w.Numbered) (played : playAll beats w = .ok (died, w')) :
    id ∈ died ↔ ∃ before amount after dead w₁,
      beats = before ++ order (.damage ⟨id, amount⟩) :: after ∧
        playAll before w = .ok (dead, w₁) ∧ w₁.Fells (w₁.damage id amount).2 id := by
  induction beats generalizing w died with
  | nil =>
    obtain ⟨rfl, -⟩ := Prod.mk.inj (Except.ok.inj played)
    refine iff_of_false List.not_mem_nil ?_
    rintro ⟨before, amount, after, dead, w₁, eq, -⟩
    exact List.append_ne_nil_of_right_ne_nil before (List.cons_ne_nil _ _) eq.symm
  | cons beat beats ih =>
    obtain ⟨first, w₁, others, now, later, rfl⟩ := playAll_cons_eq_ok played
    obtain ⟨reply, performed, -⟩ := exists_perform now
    have numbered := (h.perform performed).1
    rw [List.mem_append, mem_died_iff h now, ih numbered later]
    constructor
    · rintro (fells | ⟨before, amount, after, dead, w₂, rfl, way, fells⟩)
      · obtain ⟨amount, rfl⟩ := eq_damage_of_fells h now fells
        obtain ⟨-, rfl⟩ := Prod.mk.inj (Except.ok.inj now)
        exact ⟨[], amount, beats, [], w, rfl, rfl, fells⟩
      · refine ⟨beat :: before, amount, after, first ++ dead, w₂, rfl, ?_, fells⟩
        rw [playAll, now, Checked.ok_bind, way, Checked.ok_bind]
    · rintro ⟨before, amount, after, dead, w₂, eq, way, fells⟩
      cases before with
      | nil =>
        obtain ⟨rfl, rfl⟩ := List.cons.inj eq
        obtain ⟨-, rfl⟩ := Prod.mk.inj (Except.ok.inj way)
        obtain ⟨-, rfl⟩ := Prod.mk.inj (Except.ok.inj now)
        exact .inl fells
      | cons beat' before =>
        obtain ⟨rfl, rfl⟩ := List.cons.inj eq
        obtain ⟨first', w₁', others', now', way', -⟩ := playAll_cons_eq_ok way
        obtain ⟨-, rfl⟩ := Prod.mk.inj (Except.ok.inj (now.symm.trans now'))
        exact .inr ⟨before, amount, after, others', w₂, rfl, way', fells⟩

end Beat

/-! ### The damage of one update -/

/-- What a unit suffers in all. -/
def DamageOrder.sum (l : List DamageOrder) (id : EntityId) : Nat :=
  (l.map fun o => if id = o.unit then o.amount.toNat else 0).sum

namespace World

variable {w w₁ w' w'' : World} {harm harm₁ : EntityId → Nat} {died died₁ died' : List EntityId}
  {id : EntityId}

/-- All that damage does: of each unit it leaves what the sum of the harm leaves, and the dead are
those who have lived. -/
structure Wounds (w : World) (harm : EntityId → Nat) (died : List EntityId) (w' : World) :
    Prop where
  numbered : w'.Numbered
  map : w'.map = w.map
  index : w'.index = w.index
  selected : w'.selected = w.selected
  particles : w'.roster.particles = w.roster.particles
  next : w'.roster.next = w.roster.next
  unit? : ∀ id, w'.unit? id = (w.unit? id).map (GameUnit.wound (harm id))
  nodup : died.Nodup
  mem : ∀ id, id ∈ died ↔ w.Fells w' id

theorem Wounds.refl (h : w.Numbered) : w.Wounds (fun _ => 0) [] w := by
  refine ⟨h, rfl, rfl, rfl, rfl, rfl, ?_, List.nodup_nil, ?_⟩
  · intro id
    have same : GameUnit.wound 0 = fun u => u := funext GameUnit.wound_zero
    rw [same, Option.map_id']
  · intro id
    refine iff_of_false List.not_mem_nil ?_
    rintro ⟨u, u', owned, found, alive, dead⟩
    obtain rfl := Option.some.inj (owned.symm.trans found)
    exact alive dead

theorem Wounds.trans (h₁ : w.Wounds harm₁ died₁ w₁) (h : w₁.Wounds harm died w') :
    w.Wounds (fun id => harm₁ id + harm id) (died₁ ++ died) w' := by
  -- a unit dies on the way to `w₁` or after it
  have fells (id : EntityId) : w.Fells w' id ↔ w.Fells w₁ id ∨ w₁.Fells w' id := by
    constructor
    · rintro ⟨u, u', owned, found, alive, dead⟩
      have between := h₁.unit? id
      rw [owned, Option.map_some] at between
      by_cases fallen : (u.wound (harm₁ id)).hp = 0
      · exact .inl ⟨u, _, owned, between, alive, fallen⟩
      · exact .inr ⟨_, u', between, found, fallen, dead⟩
    · rintro (⟨u, u₁, owned, between, alive, dead⟩ | ⟨u₁, u', between, found, alive, dead⟩)
      · have found := h.unit? id
        rw [between, Option.map_some] at found
        exact ⟨u, _, owned, found, alive, GameUnit.hp_wound_of_dead _ dead⟩
      · have origin := between
        rw [h₁.unit?] at origin
        obtain ⟨u, owned, rfl⟩ := Option.map_eq_some_iff.mp origin
        exact ⟨u, u', owned, found, fun fallen => alive (GameUnit.hp_wound_of_dead _ fallen), dead⟩
  refine ⟨h.numbered, h.map.trans h₁.map, h.index.trans h₁.index, h.selected.trans h₁.selected,
    h.particles.trans h₁.particles, h.next.trans h₁.next, ?_, ?_, ?_⟩
  · intro id
    rw [h.unit?, h₁.unit?, Option.map_map]
    congr 1
    exact funext fun u => u.wound_wound _ _
  · refine List.nodup_append'.mpr ⟨h₁.nodup, h.nodup, ?_⟩
    intro id mem mem'
    obtain ⟨-, u₁, -, between, -, dead⟩ := (h₁.mem id).mp mem
    obtain ⟨v, -, found, -, alive, -⟩ := (h.mem id).mp mem'
    obtain rfl := Option.some.inj (between.symm.trans found)
    exact alive dead
  · intro id
    rw [List.mem_append, h₁.mem, h.mem, fells]

theorem Numbered.wounds_damage (h : w.Numbered) (o : DamageOrder) :
    w.Wounds (fun id => if id = o.unit then o.amount.toNat else 0)
      (if (w.damage o.unit o.amount).1 = some true then [o.unit] else [])
      (w.damage o.unit o.amount).2 := by
  have played : (Beat.order (.damage o)).play w = .ok (_, (w.damage o.unit o.amount).2) := rfl
  have performed : (Op.damage o.unit o.amount).perform w = .ok (_, (w.damage o.unit o.amount).2) :=
    rfl
  have numbered := (h.perform performed).1
  have units := h.inStep.unit?_damage o.unit o.amount
  obtain ⟨after, same⟩ : ∃ units,
      (w.damage o.unit o.amount).2 = { w with roster := { w.roster with units } } := by
    rcases of_damage w o.unit o.amount with same | ⟨u, -, same⟩
    · exact ⟨w.roster.units, same⟩
    · exact ⟨_, same⟩
  refine ⟨numbered, by rw [same], by rw [same], by rw [same], by rw [same], by rw [same], ?_, ?_,
    fun _ => Beat.mem_died_iff h played⟩
  · intro id
    rw [units]
    congr 1
    funext u
    split
    case isTrue => rfl
    case isFalse => exact u.wound_zero.symm
  · split
    case isTrue => exact List.nodup_singleton _
    case isFalse => exact List.nodup_nil

/-- Damage does what the sums of it do, whatever has died before. -/
theorem Numbered.wounds_foldl (h : w.Numbered) (l : List DamageOrder) (dead : List EntityId) :
    ∃ died w', l.foldl Mail.damage (dead, w) = (dead ++ died, w') ∧
      w.Wounds (DamageOrder.sum l) died w' := by
  induction l generalizing w dead with
  | nil => exact ⟨[], w, by rw [List.foldl_nil, List.append_nil], .refl h⟩
  | cons o l ih =>
    have now := h.wounds_damage o
    have step : Mail.damage (dead, w) o
        = (dead ++ (if (w.damage o.unit o.amount).1 = some true then [o.unit] else []),
          (w.damage o.unit o.amount).2) := by
      rw [Mail.damage]
      dsimp only
      split
      case isTrue => rfl
      case isFalse => rw [List.append_nil]
    obtain ⟨died, w', later, wounds⟩ := ih now.numbered
      (dead ++ (if (w.damage o.unit o.amount).1 = some true then [o.unit] else []))
    refine ⟨_ ++ died, w', ?_, now.trans wounds⟩
    rw [List.foldl_cons, step, later, List.append_assoc]

/-- The sums decide what damage does, up to the order of the deaths. -/
theorem Wounds.unique (h : w.Wounds harm died w') (h' : w.Wounds harm died' w'') :
    died.Perm died' ∧ w' = w'' := by
  have roster : w'.roster = w''.roster :=
    Roster.eq_of_unit?_eq (fun id => (h.unit? id).trans (h'.unit? id).symm)
      (h.particles.trans h'.particles.symm) (h.next.trans h'.next.symm)
  have same : w' = w'' := by
    calc w' = ⟨w'.map, w'.roster, w'.index, w'.selected⟩ := rfl
      _ = ⟨w''.map, w''.roster, w''.index, w''.selected⟩ := by
        rw [h.map, h.index, h.selected, roster, ← h'.map, ← h'.index, ← h'.selected]
      _ = w'' := rfl
  refine ⟨(List.perm_ext_iff_of_nodup h.nodup h'.nodup).mpr ?_, same⟩
  intro id
  rw [h.mem, h'.mem, same]

end World

/-! ### Orders -/

namespace Order

variable {w : World} {orders orders' : List Order}

/-- Orders carried out in a row come to beats. -/
theorem foldlM_carryOut (orders : List Order) (state : List EntityId × World) :
    orders.foldlM carryOut state
      = (Beat.playAll (orders.map .order) state.2).map fun r => (state.1 ++ r.1, r.2) := by
  induction orders generalizing state with
  | nil =>
    rw [List.map_nil, Beat.playAll, Checked.map_ok, List.append_nil]
    rfl
  | cons o orders ih =>
    rw [List.foldlM_cons, List.map_cons, Beat.playAll, carryOut, Beat.play]
    cases o.apply state.2 with
    | error fault => rfl
    | ok r =>
      rw [Checked.map_ok, Checked.ok_bind, Checked.ok_bind, ih]
      cases Beat.playAll (orders.map .order) r.2 with
      | error fault => rfl
      | ok r' =>
        rw [Checked.ok_bind, Checked.map_ok, Checked.map_ok, List.append_assoc]

/-- Two batches that differ in the order of the damage, and in how the kinds are mixed. -/
structure SameButDamage (orders orders' : List Order) : Prop where
  damage : (orders.filter fun o => decide (o.stage = .damage)).Perm
    (orders'.filter fun o => decide (o.stage = .damage))
  other : ∀ stage, stage ≠ .damage → (orders.filter fun o => decide (o.stage = stage))
    = orders'.filter fun o => decide (o.stage = stage)

/-- Deaths in another order, and the same world. -/
def SameToll (r r' : List EntityId × World) : Prop := r.1.Perm r'.1 ∧ r.2 = r'.2

theorem numbered_carryOut {o : Order} {state state' : List EntityId × World}
    (h : state.2.Numbered) (carried : carryOut state o = .ok state') : state'.2.Numbered := by
  obtain ⟨⟨died, w'⟩, applied, rfl⟩ := Checked.map_eq_ok_iff.mp carried
  have played : (Beat.order o).play state.2 = .ok (died, w') := applied
  obtain ⟨reply, performed, -⟩ := Beat.exists_perform played
  exact (h.perform performed).1

theorem sameToll_carryOut {r r' : List EntityId × World} (o : Order) (h : SameToll r r') :
    Checked.Related SameToll (carryOut r o) (carryOut r' o) := by
  obtain ⟨died, w⟩ := r
  obtain ⟨died', w'⟩ := r'
  obtain ⟨perm, rfl⟩ := h
  exact (Checked.Related.refl (o.apply w)).map fun a a' eq => ⟨eq ▸ perm.append_right _, eq ▸ rfl⟩

/-- The damage among orders, as it comes. -/
theorem exists_damages (orders : List Order) : ∃ l : List DamageOrder,
    (orders.filter fun o => decide (o.stage = .damage)) = l.map .damage :=
  ⟨_, (Mail.orders_foldl_send orders .empty .damage).symm⟩

/-- Damage comes to the same in any order. -/
theorem sameToll_damage {l l' : List DamageOrder} {state : List EntityId × World}
    (h : state.2.Numbered) (perm : l.Perm l') :
    Checked.Related SameToll ((l.map .damage).foldlM carryOut state)
      ((l'.map .damage).foldlM carryOut state) := by
  have sums : DamageOrder.sum l = DamageOrder.sum l' := funext fun id => (perm.map _).sum_eq
  obtain ⟨died, w₁, done, wounds⟩ := h.wounds_foldl l state.1
  obtain ⟨died', w₁', done', wounds'⟩ := h.wounds_foldl l' state.1
  rw [← sums] at wounds'
  obtain ⟨same, rfl⟩ := wounds.unique wounds'
  rw [foldlM_carryOut_damage, foldlM_carryOut_damage, done, done']
  exact ⟨same.append_left _, rfl⟩

/-- The orders of an update come to the same whatever the order of the damage is. -/
theorem SameButDamage.sameToll (same : SameButDamage orders orders') (h : w.Numbered) :
    Checked.Related SameToll ((inStages orders).foldlM carryOut ([], w))
      ((inStages orders').foldlM carryOut ([], w)) := by
  have sorted (orders : List Order) : inStages orders
      = ([.despawn, .spawn, .move].flatMap fun stage =>
          orders.filter fun o => decide (o.stage = stage))
        ++ ((orders.filter fun o => decide (o.stage = .damage))
        ++ [.view, .click].flatMap fun stage =>
          orders.filter fun o => decide (o.stage = stage)) := by
    simp only [inStages, Stage.all, List.flatMap_cons, List.flatMap_nil, List.append_nil,
      List.append_assoc]
  have before : ([.despawn, .spawn, .move].flatMap fun stage =>
      orders.filter fun o => decide (o.stage = stage))
      = [.despawn, .spawn, .move].flatMap fun stage =>
      orders'.filter fun o => decide (o.stage = stage) := by
    simp only [List.flatMap_cons, same.other .despawn (by decide), same.other .spawn (by decide),
      same.other .move (by decide)]
    rfl
  have after : ([.view, .click].flatMap fun stage =>
      orders.filter fun o => decide (o.stage = stage))
      = [.view, .click].flatMap fun stage =>
      orders'.filter fun o => decide (o.stage = stage) := by
    simp only [List.flatMap_cons, same.other .view (by decide), same.other .click (by decide)]
    rfl
  obtain ⟨l, damages⟩ := exists_damages orders
  obtain ⟨l', damages'⟩ := exists_damages orders'
  have perm : l.Perm l' := by
    have mapped := same.damage
    rw [damages, damages'] at mapped
    exact (List.map_perm_map_iff fun _ _ => Order.damage.inj).mp mapped
  rw [sorted, sorted, before, after, damages, damages', List.foldlM_append, List.foldlM_append]
  generalize [Stage.despawn, .spawn, .move].flatMap _ = first
  cases carried : first.foldlM carryOut ([], w) with
  | error fault => exact Eq.refl fault
  | ok state =>
    have numbered : state.2.Numbered :=
      Checked.foldlM_induction (P := fun state => state.2.Numbered) numbered_carryOut h carried
    rw [Checked.ok_bind, Checked.ok_bind, List.foldlM_append, List.foldlM_append]
    refine (sameToll_damage numbered perm).bind ?_
    intro r r' toll
    exact Checked.Related.foldlM (fun _ _ o => sameToll_carryOut o) toll

end Order

/-! ### Updates -/

namespace Session

variable {s s' : Session} {w w' : World} {orders : List Order} {outcome : Outcome}

/-- What has been carried out stays so, and a frame comes after it. -/
theorem Hosts.close (h : s.Hosts w) {r : List EntityId × World} (closed : s.close r = .ok outcome) :
    outcome.died = r.1 ∧ ∃ framed, r.2.frame = .ok framed ∧ outcome.session.Hosts framed.world := by
  rw [h.close_eq] at closed
  split at closed
  case isTrue room =>
    obtain ⟨framed, shown, rfl⟩ := Checked.map_eq_ok_iff.mp closed
    exact ⟨rfl, framed, shown, rfl, h.mail, h.runner⟩
  case isFalse full =>
    obtain ⟨t, -, fails⟩ := Checked.bind_eq_ok_iff.mp closed
    cases fails

/-- Updates in a row, with orders sent before each of them, and all deaths. -/
def play : List (List Order) → Session → Except Fault (List EntityId × Session)
  | [], s => .ok ([], s)
  | orders :: batches, s => do
    let first ← (orders.foldl post s).update
    let later ← play batches first.session
    .ok (first.died ++ later.1, later.2)

/-- A batch of orders is played beat by beat, and its frame after it. -/
theorem Hosts.playAll_ofBatch (h : s.Hosts w)
    (updated : (orders.foldl post s).update = .ok outcome) :
    ∃ w', outcome.session.Hosts w' ∧
      Beat.playAll (Beat.ofBatch orders) w = .ok (outcome.died, w') := by
  rw [h.update_eq, Order.foldlM_carryOut] at updated
  obtain ⟨_, carried, closed⟩ := Checked.bind_eq_ok_iff.mp updated
  obtain ⟨r, played, rfl⟩ := Checked.map_eq_ok_iff.mp carried
  obtain ⟨died, framed, shown, hosts⟩ := h.close closed
  refine ⟨framed.world, hosts, ?_⟩
  dsimp only at shown played died
  rw [Beat.ofBatch, Beat.playAll_append, played, Checked.ok_bind, Beat.playAll, Beat.play, shown,
    Checked.map_ok, Checked.ok_bind, Beat.playAll, Checked.ok_bind, Checked.ok_bind, died]
  simp only [List.nil_append, List.append_nil]

/-- Updates play their orders beat by beat. -/
theorem Hosts.of_play {batches : List (List Order)} {died : List EntityId} (h : s.Hosts w)
    (played : s.play batches = .ok (died, s')) :
    ∃ w', s'.Hosts w' ∧ Beat.playAll (batches.flatMap Beat.ofBatch) w = .ok (died, w') := by
  induction batches generalizing s w died with
  | nil =>
    obtain ⟨rfl, rfl⟩ := Prod.mk.inj (Except.ok.inj played)
    exact ⟨w, h, rfl⟩
  | cons orders batches ih =>
    simp only [play, Checked.bind_eq_ok_iff, Except.ok.injEq, Prod.mk.injEq] at played
    obtain ⟨first, updated, ⟨others, s₂⟩, later, rfl, rfl⟩ := played
    obtain ⟨w₁, hosts, now⟩ := h.playAll_ofBatch updated
    obtain ⟨w', hosts', rest⟩ := ih hosts later
    refine ⟨w', hosts', ?_⟩
    rw [List.flatMap_cons, Beat.playAll_append, now, Checked.ok_bind, rest, Checked.ok_bind]

/-- The same session after an update, and the same deaths up to their order. -/
def SameOutcome (o o' : Outcome) : Prop :=
  o.session = o'.session ∧ o.died.Perm o'.died ∧ o.exits = o'.exits

/-- The damage that is sent before an update comes to the same in any order. -/
theorem Hosts.sameOutcome {orders' : List Order} (h : s.Hosts w) (numbered : w.Numbered)
    (same : Order.SameButDamage orders orders') :
    Checked.Related SameOutcome (orders.foldl post s).update (orders'.foldl post s).update := by
  rw [h.update_eq, h.update_eq]
  refine (same.sameToll numbered).bind ?_
  rintro ⟨died, w₁⟩ ⟨died', _⟩ ⟨perm, rfl⟩
  unfold Session.close
  refine Checked.Related.bind_self fun ticked => ?_
  refine Checked.Related.bind_self fun recorded => ?_
  exact ⟨rfl, perm, rfl⟩

/-- In every series of updates a unit is announced once at most, and it is announced exactly if some
damage has taken its last hit point.  On the way no unit ever has more hit points than it can have.
And whatever is sent next, the order of the damage in it changes neither the session after the update
nor who is announced. -/
theorem deaths_of_play {batches : List (List Order)} {died : List EntityId}
    (reachable : w.ReachableBy World.Op.IsHonest) (hosts : s.Hosts w)
    (played : s.play batches = .ok (died, s')) :
    (∀ id, died.count id ≤ 1 ∧ (died.count id = 1 ↔ ∃ before amount after dead w₁,
      batches.flatMap Beat.ofBatch = before ++ .order (.damage ⟨id, amount⟩) :: after ∧
        Beat.playAll before w = .ok (dead, w₁) ∧ w₁.Fells (w₁.damage id amount).2 id)) ∧
    (∀ before after, batches.flatMap Beat.ofBatch = before ++ after →
      ∃ dead w₁, Beat.playAll before w = .ok (dead, w₁) ∧
        ∀ id u, w₁.unit? id = some u → u.hp ≤ u.hpMax) ∧
    (∃ w', s'.Hosts w' ∧ Beat.playAll (batches.flatMap Beat.ofBatch) w = .ok (died, w')) ∧
    ∀ orders orders', Order.SameButDamage orders orders' →
      Checked.Related SameOutcome (orders.foldl post s').update (orders'.foldl post s').update := by
  obtain ⟨w', hosts', beats⟩ := hosts.of_play played
  have numbered := reachable.reachable.numbered
  have nodup := Beat.nodup_died numbered beats
  refine ⟨?_, ?_, ⟨w', hosts', beats⟩, ?_⟩
  · intro id
    rw [← Beat.mem_playAll_iff numbered beats, nodup.count]
    split
    case isTrue mem => exact ⟨Nat.le_refl _, iff_of_true rfl mem⟩
    case isFalse none => exact ⟨Nat.zero_le _, iff_of_false nofun none⟩
  · intro before after eq
    rw [eq, Beat.playAll_append] at beats
    obtain ⟨⟨dead, w₁⟩, way, -⟩ := Checked.bind_eq_ok_iff.mp beats
    exact ⟨dead, w₁, way, (Beat.reachableBy_playAll reachable way).healthy.hp_le⟩
  · intro orders orders' same
    exact hosts'.sameOutcome (Beat.reachableBy_playAll reachable beats).reachable.numbered same

/-- Two houses and a tree; the first house is battered down, and hit again before it is cleared
away. -/
def siege : List (List Order) :=
  [[.spawn ⟨⟨300, 300⟩, .building .house 1⟩, .spawn ⟨⟨600, 300⟩, .building .house 2⟩,
      .spawn ⟨⟨900, 300⟩, .resource .wood⟩],
    [.damage ⟨⟨1⟩, 70⟩, .damage ⟨⟨2⟩, 10⟩, .damage ⟨⟨9⟩, 10⟩],
    [.damage ⟨⟨1⟩, 4000000000⟩, .damage ⟨⟨3⟩, 1⟩, .damage ⟨⟨1⟩, 5⟩],
    [.despawn ⟨1⟩, .damage ⟨⟨1⟩, 5⟩]]

theorem deaths_of_siege : ∃ w s', World.onMap (Map.empty.resize .small) 1 = .ok w ∧
    (start (some w) none).play siege = .ok ([⟨1⟩, ⟨3⟩], s') ∧
      ∃ before amount after dead w₁,
        siege.flatMap Beat.ofBatch = before ++ .order (.damage ⟨⟨1⟩, amount⟩) :: after ∧
          Beat.playAll before w = .ok (dead, w₁) ∧ w₁.Fells (w₁.damage ⟨1⟩ amount).2 ⟨1⟩ := by
  have played : (World.onMap (Map.empty.resize .small) 1 >>= fun w =>
      (start (some w) none).play siege).map Prod.fst = .ok [⟨1⟩, ⟨3⟩] := by
    decide +kernel
  obtain ⟨⟨died, s'⟩, played, rfl⟩ := Checked.map_eq_ok_iff.mp played
  obtain ⟨w, started, played⟩ := Checked.bind_eq_ok_iff.mp played
  have deaths := (deaths_of_play (.onMap started) ⟨rfl, rfl, rfl⟩ played).1 ⟨1⟩
  exact ⟨w, s', started, played, deaths.2.mp rfl⟩

end Session

end Skirmish
