import Mathlib.Data.List.Pairwise
import Skirmish.Proofs.World.Founding
import Skirmish.Proofs.World.Progress
import Skirmish.Session.Orders

/-!
# Orders to walk

An order to walk overwrites all that earlier orders have set in its unit: the target, the velocity
and the displacement of the sprite.  Orders leave the ground that the unit takes alone, and so the
place that a target is clamped to does not depend on earlier orders either.  Hence a batch of orders
does what the last order to each unit says, and orders to different units can change places.

## Main definitions

* `MoveOrder.last?`, `MoveOrder.lasting` — the last order to a unit, and to every unit.
* `GameUnit.heed` — a unit after an order, if it can walk.
* `GameUnit.unordered` — a unit without what orders set in it.
* `World.Moved` — what a batch of orders makes of a world.

## Main results

* `GameUnit.heed_heed` — an order overwrites the one before.
* `World.Moved.append`, `World.InStep.exists_moved` — batch after batch, and any batch.
* `World.Moved.unique` — the last order to each unit determines the world.
* `World.moved_of_reachable` — every batch on a world that can be reached.
-/

namespace Skirmish

/-! ### The last orders -/

namespace MoveOrder

/-- The orders to one unit. -/
def toUnit (id : EntityId) (orders : List MoveOrder) : List MoveOrder :=
  orders.filter fun o => o.unit = id

/-- The last order to a unit. -/
def last? (id : EntityId) (orders : List MoveOrder) : Option MoveOrder :=
  (toUnit id orders).getLast?

/-- The orders without those that are followed by another order to the same unit. -/
def lasting (orders : List MoveOrder) : List MoveOrder :=
  orders.pwFilter fun o later => o.unit ≠ later.unit

variable {id : EntityId} {o : MoveOrder} {orders orders' : List MoveOrder}

theorem last?_append : last? id (orders ++ orders') = (last? id orders').or (last? id orders) := by
  rw [last?, toUnit, List.filter_append, List.getLast?_append]
  rfl

theorem last?_singleton : last? id [o] = if o.unit = id then some o else none := by
  unfold last? toUnit
  split <;> simp [*]

/-- Of the orders to a unit the last one remains. -/
theorem toUnit_lasting (id : EntityId) (orders : List MoveOrder) :
    toUnit id (lasting orders) = (last? id orders).toList := by
  induction orders with
  | nil => rfl
  | cons o orders ih =>
    have last : last? id (o :: orders)
        = (last? id orders).or (if o.unit = id then some o else none) := by
      rw [← List.singleton_append, last?_append, last?_singleton]
    rw [last]
    by_cases overridden : ∀ later ∈ lasting orders, o.unit ≠ later.unit
    case pos =>
      rw [lasting, List.pwFilter_cons_of_pos overridden, toUnit, List.filter_cons]
      by_cases here : o.unit = id
      case pos =>
        have none : toUnit id (lasting orders) = [] :=
          List.filter_eq_nil_iff.mpr fun later mem eq =>
            overridden later mem (here.trans (of_decide_eq_true eq).symm)
        have missing : last? id orders = .none := Option.toList_eq_nil_iff.mp (ih ▸ none)
        rw [if_pos (decide_eq_true here), if_pos here, missing, Option.none_or]
        exact congrArg (o :: ·) none
      case neg =>
        rw [if_neg (by simpa using here), if_neg here, Option.or_none]
        exact ih
    case neg =>
      rw [lasting, List.pwFilter_cons_of_neg overridden]
      refine ih.trans (congrArg Option.toList ?_)
      cases found : last? id orders with
      | some later => rfl
      | none =>
        -- a later order to the same unit remains, so the unit is another one
        push Not at overridden
        obtain ⟨later, mem, eq⟩ := overridden
        have ne : o.unit ≠ id := by
          intro here
          have mem : later ∈ toUnit id (lasting orders) :=
            List.mem_filter.mpr ⟨mem, decide_eq_true (eq.symm.trans here)⟩
          rw [ih, found] at mem
          cases mem
        rw [if_neg ne]
        rfl

/-- The lasting orders in any order have the same last order to each unit. -/
theorem last?_of_perm (perm : orders'.Perm (lasting orders)) : last? id orders' = last? id orders := by
  have perm : (toUnit id orders').Perm (last? id orders).toList := by
    rw [← toUnit_lasting]
    exact perm.filter _
  rw [last?]
  cases found : last? id orders with
  | none =>
    rw [found] at perm
    rw [perm.eq_nil]
    rfl
  | some o =>
    rw [found] at perm
    rw [List.perm_singleton.mp perm]
    rfl

end MoveOrder

/-! ### Units -/

namespace GameUnit

variable {aim shift aim' shift' : Point} {u : GameUnit}

/-- A unit after an order; one that cannot walk is as it was. -/
def heed (aim shift : Point) (u : GameUnit) : GameUnit := (u.order? aim shift).getD u

/-- A unit without what orders set in it. -/
def unordered (u : GameUnit) : GameUnit :=
  match u.kind with
  | .mobile m =>
    { u with
      body := { u.body with shift := .origin }
      kind := .mobile { m with target := .origin, velocity := .zero } }
  | _ => u

/-- An order overwrites all that the one before has set. -/
theorem heed_heed : (u.heed aim shift).heed aim' shift' = u.heed aim' shift' := by
  obtain ⟨body, hp, hpMax, kind⟩ := u
  cases kind <;> rfl

theorem unordered_heed : (u.heed aim shift).unordered = u.unordered := by
  obtain ⟨body, hp, hpMax, kind⟩ := u
  cases kind <;> rfl

theorem ofUnit_heed : Entry.ofUnit (u.heed aim shift) = Entry.ofUnit u := by
  rw [heed]
  cases ordered : u.order? aim shift with
  | none => rfl
  | some u' => exact Entry.ofUnit_order ordered

theorem id_heed : (u.heed aim shift).id = u.id := congrArg Entry.id ofUnit_heed

theorem bounds_heed : (u.heed aim shift).bounds = u.bounds := congrArg Entry.box ofUnit_heed

theorem pos_unordered : u.unordered.pos = u.pos := by
  obtain ⟨body, hp, hpMax, kind⟩ := u
  cases kind <;> rfl

theorem hp_unordered : u.unordered.hp = u.hp := by
  obtain ⟨body, hp, hpMax, kind⟩ := u
  cases kind <;> rfl

theorem exact_unordered :
    u.unordered.movement?.map Movement.exact = u.movement?.map Movement.exact := by
  obtain ⟨body, hp, hpMax, kind⟩ := u
  cases kind <;> rfl

end GameUnit

namespace World

/-! ### Batches -/

/-- What a batch of orders makes of a world. -/
structure Moved (w : World) (orders : List MoveOrder) (w' : World) : Prop where
  missing : ∀ id, w.unit? id = none → w'.unit? id = none
  /-- A unit without orders is as it was. -/
  idle : ∀ id, MoveOrder.last? id orders = none → w'.unit? id = w.unit? id
  /-- Every other unit does what the last of its orders says, its target brought inside the map. -/
  heeds : ∀ id u o, w.unit? id = some u → MoveOrder.last? id orders = some o →
    ∃ fitted, w.map.clamp (u.bounds.moveTo o.target) = .ok fitted ∧
      w'.unit? id = some (u.heed fitted.center o.shift)
  particles : w'.roster.particles = w.roster.particles
  next : w'.roster.next = w.roster.next
  map : w'.map = w.map
  index : w'.index = w.index
  selected : w'.selected = w.selected

variable {w w₁ w' : World} {orders orders' : List MoveOrder} {o : MoveOrder}

namespace Moved

theorem nil (w : World) : w.Moved [] w := ⟨fun _ => id, fun _ _ => rfl, nofun, rfl, rfl, rfl, rfl, rfl⟩

/-- One batch after the other. -/
theorem append (h : w.Moved orders w₁) (h' : w₁.Moved orders' w') :
    w.Moved (orders ++ orders') w' where
  missing id none := h'.missing id (h.missing id none)
  idle id none := by
    rw [MoveOrder.last?_append, Option.or_eq_none_iff] at none
    rw [h'.idle id none.1, h.idle id none.2]
  heeds id u o found last := by
    rw [MoveOrder.last?_append] at last
    cases last' : MoveOrder.last? id orders' with
    | none =>
      rw [last', Option.none_or] at last
      rw [h'.idle id last']
      exact h.heeds id u o found last
    | some o' =>
      rw [last', Option.some_or] at last
      obtain rfl := Option.some.inj last
      cases last₁ : MoveOrder.last? id orders with
      | none =>
        rw [← h.idle id last₁] at found
        rw [← h.map]
        exact h'.heeds id u _ found last'
      | some o₁ =>
        -- the unit has heeded an order of the first batch, and nothing of it remains
        obtain ⟨fitted₁, -, found₁⟩ := h.heeds id u o₁ found last₁
        obtain ⟨fitted, clamped, found'⟩ := h'.heeds id _ _ found₁ last'
        rw [GameUnit.bounds_heed, h.map] at clamped
        rw [GameUnit.heed_heed] at found'
        exact ⟨fitted, clamped, found'⟩
  particles := h'.particles.trans h.particles
  next := h'.next.trans h.next
  map := h'.map.trans h.map
  index := h'.index.trans h.index
  selected := h'.selected.trans h.selected

/-- Batches with the same last order to each unit make the same world. -/
theorem unique {w'' : World} (h : w.Moved orders w') (h' : w.Moved orders' w'')
    (same : ∀ id, MoveOrder.last? id orders' = MoveOrder.last? id orders) : w'' = w' := by
  have units (id : EntityId) : w''.unit? id = w'.unit? id := by
    cases found : w.unit? id with
    | none => rw [h.missing id found, h'.missing id found]
    | some u =>
      cases last : MoveOrder.last? id orders with
      | none => rw [h.idle id last, h'.idle id ((same id).trans last)]
      | some o =>
        obtain ⟨fitted, clamped, held⟩ := h.heeds id u o found last
        obtain ⟨fitted', clamped', held'⟩ := h'.heeds id u o found ((same id).trans last)
        obtain rfl := Except.ok.inj (clamped.symm.trans clamped')
        rw [held, held']
  have roster : w''.roster = w'.roster :=
    Roster.eq_of_unit?_eq units (h'.particles.trans h.particles.symm) (h'.next.trans h.next.symm)
  have map := h'.map.trans h.map.symm
  have index := h'.index.trans h.index.symm
  have selected := h'.selected.trans h.selected.symm
  cases w'
  cases w''
  rw [World.mk.injEq]
  exact ⟨map, roster, index, selected⟩

/-- But for what orders set, every unit is as it was. -/
theorem unordered (h : w.Moved orders w') (id : EntityId) :
    (w'.unit? id).map GameUnit.unordered = (w.unit? id).map GameUnit.unordered := by
  cases found : w.unit? id with
  | none => rw [h.missing id found]
  | some u =>
    cases last : MoveOrder.last? id orders with
    | none => rw [h.idle id last, found]
    | some o =>
      obtain ⟨fitted, -, held⟩ := h.heeds id u o found last
      rw [held, Option.map_some, Option.map_some, GameUnit.unordered_heed]

end Moved

/-- An order to a unit that is there. -/
theorem InStep.move_eq (h : w.InStep) {u : GameUnit} {fitted : Box}
    (found : w.unit? o.unit = some u)
    (clamped : w.map.clamp (u.bounds.moveTo o.target) = .ok fitted) :
    Mail.move w o = .ok { w with roster := w.roster.setUnit (u.heed fitted.center o.shift) } := by
  have hid : u.id = o.unit := h.unit_id found
  rw [Mail.move, World.moveUnit, found]
  dsimp only
  rw [clamped, Checked.ok_bind, GameUnit.heed]
  cases u.order? fitted.center o.shift with
  | some u' => rfl
  | none =>
    have same : w.roster.setUnit u = w.roster := Roster.setUnit_self (hid ▸ found)
    rw [Option.getD_none, same]
    rfl

/-- One order. -/
theorem InStep.exists_move (h : w.InStep) (o : MoveOrder) :
    ∃ w', Mail.move w o = .ok w' ∧ w.Moved [o] w' ∧ w'.InStep := by
  cases found : w.unit? o.unit with
  | none =>
    have same : Mail.move w o = .ok w := by
      rw [Mail.move, World.moveUnit, found]
      rfl
    refine ⟨w, same, ⟨fun _ => id, fun _ _ => rfl, ?_, rfl, rfl, rfl, rfl, rfl⟩, h⟩
    intro id u o' found' last
    rw [MoveOrder.last?_singleton] at last
    split at last
    case isTrue here =>
      rw [← here, found] at found'
      cases found'
    case isFalse => cases last
  | some u =>
    have half : (u.bounds.moveTo o.target).half = (Entry.ofUnit u).box.half := rfl
    obtain ⟨fitted, clamped⟩ := h.exists_clamp (Roster.owned?_of_unit? found) half
    have hid : (u.heed fitted.center o.shift).id = o.unit :=
      GameUnit.id_heed.trans (h.unit_id found)
    refine ⟨_, h.move_eq found clamped, ⟨?_, ?_, ?_, rfl, rfl, rfl, rfl, rfl⟩,
      h.setUnit found GameUnit.ofUnit_heed⟩
    · intro id missing
      have ne : id ≠ o.unit := by
        rintro rfl
        rw [found] at missing
        cases missing
      refine (Roster.unit?_setUnit _ _).trans ?_
      rw [hid, if_neg ne]
      exact missing
    · intro id none
      rw [MoveOrder.last?_singleton, ite_eq_right_iff] at none
      refine (Roster.unit?_setUnit _ _).trans ?_
      rw [hid, if_neg fun here => nomatch none here.symm]
      rfl
    · intro id u' o' found' last
      rw [MoveOrder.last?_singleton] at last
      split at last
      case isTrue here =>
        obtain rfl := Option.some.inj last
        subst here
        obtain rfl := Option.some.inj (found.symm.trans found')
        refine ⟨fitted, clamped, (Roster.unit?_setUnit _ _).trans ?_⟩
        rw [hid, if_pos rfl]
      case isFalse => cases last

/-- A batch of orders has no fault. -/
theorem InStep.exists_moved (h : w.InStep) (orders : List MoveOrder) :
    ∃ w', orders.foldlM Mail.move w = .ok w' ∧ w.Moved orders w' := by
  induction orders generalizing w with
  | nil => exact ⟨w, rfl, .nil w⟩
  | cons o orders ih =>
    obtain ⟨w₁, first, moved, h₁⟩ := h.exists_move o
    obtain ⟨w', rest, moved'⟩ := ih h₁
    refine ⟨w', ?_, moved.append moved'⟩
    rw [List.foldlM_cons, first, Checked.ok_bind, rest]

/-- A batch of orders on a world that can be reached comes to the same as its lasting orders alone,
in any order, and as any batch that gives each unit the same orders in the same sequence.  Units
stay where they are and keep their hit points and exact positions, and so does the index. -/
theorem moved_of_reachable (reachable : w.Reachable) (orders : List MoveOrder) :
    ∃ w', orders.foldlM Mail.move w = .ok w' ∧
      (∀ orders' : List MoveOrder, orders'.Perm (MoveOrder.lasting orders) →
        orders'.foldlM Mail.move w = .ok w') ∧
      (∀ orders' : List MoveOrder,
        (∀ id, MoveOrder.toUnit id orders' = MoveOrder.toUnit id orders) →
        orders'.foldlM Mail.move w = .ok w') ∧
      w.Moved orders w' ∧
      ∀ id u, w.unit? id = some u → ∃ u', w'.unit? id = some u' ∧ u'.pos = u.pos ∧
        u'.hp = u.hp ∧ u'.movement?.map Movement.exact = u.movement?.map Movement.exact ∧
        u'.unordered = u.unordered := by
  have h := reachable.inStep
  obtain ⟨w', ran, moved⟩ := h.exists_moved orders
  have same {orders' : List MoveOrder}
      (last : ∀ id, MoveOrder.last? id orders' = MoveOrder.last? id orders) :
      orders'.foldlM Mail.move w = .ok w' := by
    obtain ⟨w'', ran', moved'⟩ := h.exists_moved orders'
    rw [ran', moved.unique moved' last]
  refine ⟨w', ran, fun orders' perm => same fun id => MoveOrder.last?_of_perm perm,
    fun orders' each => same fun id => congrArg List.getLast? (each id), moved, ?_⟩
  intro id u found
  have unordered := moved.unordered id
  rw [found, Option.map_some, Option.map_eq_some_iff] at unordered
  obtain ⟨u', found', unordered⟩ := unordered
  refine ⟨u', found', ?_, ?_, ?_, unordered⟩
  · rw [← GameUnit.pos_unordered, unordered, GameUnit.pos_unordered]
  · rw [← GameUnit.hp_unordered, unordered, GameUnit.hp_unordered]
  · rw [← GameUnit.exact_unordered, unordered, GameUnit.exact_unordered]

/-- Two villagers and a house. -/
def hamlet : List Op :=
  [.spawnUnit fun id => .ok (.villager id ⟨200, 200⟩ 1),
    .spawnUnit fun id => .ok (.villager id ⟨300, 260⟩ 1),
    .spawnUnit fun id => .ok (.building id ⟨600, 600⟩ .house 1)]

/-- Orders to all three and to an unknown unit; the first villager gets a second order, whose target
lies beyond the map. -/
def errands : List MoveOrder :=
  [⟨⟨1⟩, ⟨900, 900⟩, ⟨1, 1⟩⟩, ⟨⟨3⟩, ⟨0, 0⟩, ⟨5, 5⟩⟩, ⟨⟨2⟩, ⟨-50, 100⟩, ⟨3, 3⟩⟩,
    ⟨⟨9⟩, ⟨70, 70⟩, ⟨0, 0⟩⟩, ⟨⟨1⟩, ⟨99999, 400⟩, ⟨0, -2⟩⟩]

theorem moved_of_hamlet : ∃ w w' : World, w.Reachable ∧ errands.foldlM Mail.move w = .ok w' ∧
    (MoveOrder.lasting errands).reverse.foldlM Mail.move w = .ok w' ∧ w.Moved errands w' ∧
    (w'.unit? ⟨1⟩).map (fun u => (u.pos, u.movement?.map Movement.target, u.body.shift))
      = some (⟨200, 200⟩, some ⟨3833, 400⟩, ⟨0, -2⟩) := by
  have moved : (((onMap (Map.empty.resize .small) 1) >>= run hamlet) >>= fun r =>
      errands.foldlM Mail.move r.2).map (fun w' => (w'.unit? ⟨1⟩).map fun u =>
        (u.pos, u.movement?.map Movement.target, u.body.shift))
      = .ok (some (⟨200, 200⟩, some ⟨3833, 400⟩, ⟨0, -2⟩)) := by
    decide +kernel
  obtain ⟨w', ran, moved⟩ := Checked.map_eq_ok_iff.mp moved
  obtain ⟨⟨replies, w⟩, played, ran⟩ := Checked.bind_eq_ok_iff.mp ran
  obtain ⟨w₀, started, played⟩ := Checked.bind_eq_ok_iff.mp played
  have reachable : w.Reachable := (Reachable.onMap started).run played
  obtain ⟨w'', ran', lasting, -, same, -⟩ := moved_of_reachable reachable errands
  obtain rfl : w' = w'' := Except.ok.inj (ran.symm.trans ran')
  exact ⟨w, w', reachable, ran, lasting _ (List.reverse_perm _), same, moved⟩

end World

end Skirmish
