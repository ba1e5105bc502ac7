import Skirmish.Proofs.World.Fate
import Skirmish.Proofs.World.Lineage

/-!
# Stocks of resource nodes

What a resource node holds is taken by harvests of it and is touched by nothing else.  So over any
run a node accounts for its stock: what it had is what it has left and what the harvests of it have
replied.  A harvest replies less than was requested only if nothing is left afterwards, hence the
replies add up to all that was requested, or to all that was there.

## Main definitions

* `Stock.Drawn` — a stock, and what is left of it after requests.
* `World.stock?` — what a resource node of a world holds.
* `World.requested`, `World.gathered` — what a run asks of a node, and what it is given.
* `World.IsFull` — a world whose nodes hold what is usual for their kind.

## Main results

* `Numbered.drawn_perform`, `Numbered.drawn_run` — what an operation and a run draw from a node.
* `isFull_generate` — nothing has been taken in a match that has just been founded.
* `stock_of_run` — every node of every run, from the time when it is spawned.
-/

namespace Skirmish

/-! ### One stock -/

/-- What is left of a stock after requests of some sum, of which some has been granted. -/
structure Stock.Drawn (s : Stock) (requested granted : Nat) (left : Stock) : Prop where
  kind : left.kind = s.kind
  conserved : s.amount.toNat = left.amount.toNat + granted
  granted : granted = min requested s.amount.toNat

namespace Stock

variable {s s₁ left : Stock} {m m' n n' : Nat}

theorem Drawn.refl (s : Stock) : s.Drawn 0 0 s := ⟨rfl, rfl, (Nat.zero_min _).symm⟩

/-- Requests add up, and so does what is granted. -/
theorem Drawn.trans (h₁ : s.Drawn m n s₁) (h : s₁.Drawn m' n' left) :
    s.Drawn (m + m') (n + n') left := by
  have before := h₁.conserved
  have after := h.conserved
  have granted₁ := h₁.granted
  have granted := h.granted
  exact ⟨h.kind.trans h₁.kind, by omega, by omega⟩

theorem toNat_taken (s : Stock) (request : UInt32) :
    (s.taken request).toNat = min request.toNat s.amount.toNat := by
  unfold taken
  split
  case isTrue le => exact (Nat.min_eq_left (UInt32.le_iff_toNat_le.mp le)).symm
  case isFalse gt =>
    rw [UInt32.le_iff_toNat_le, Nat.not_le] at gt
    exact (Nat.min_eq_right (Nat.le_of_lt gt)).symm

theorem drawn_harvest (s : Stock) (request : UInt32) :
    s.Drawn request.toNat (s.taken request).toNat (s.harvest request) where
  kind := rfl
  conserved := by rw [Nat.add_comm, s.taken_add_harvest]
  granted := s.toNat_taken request

/-- A harvest never takes more than was requested, and less only if nothing is left. -/
theorem taken_le_and_isDepleted (s : Stock) (request : UInt32) :
    s.taken request ≤ request ∧
      (s.taken request < request → (s.harvest request).isDepleted = true) := by
  have taken := s.toNat_taken request
  have conserved := s.taken_add_harvest request
  constructor
  · rw [UInt32.le_iff_toNat_le]
    omega
  · intro short
    rw [UInt32.lt_iff_toNat_lt] at short
    have none : (s.harvest request).amount.toNat = 0 := by omega
    exact decide_eq_true (UInt32.toNat_inj.mp none)

end Stock

/-! ### Units -/

namespace GameUnit

variable {u u' : GameUnit} {s : Stock}

theorem stock?_eq_some_iff : u.stock? = some s ↔ u.kind = .resource s := by
  unfold stock?
  split
  case h_1 stock kind => rw [kind, UnitKind.resource.injEq, Option.some.injEq]
  case h_2 other => exact ⟨nofun, fun kind => absurd kind (other s)⟩

/-- The stock has no part in where a unit is and what it shows. -/
theorem isLasting_stock : IsLasting stock? where
  project _ _ := rfl
  place pos u := by
    unfold stock? GameUnit.place
    cases u.kind <;> rfl
  order {_ _ u _} h := by
    unfold order? at h
    split at h
    case h_1 m kind =>
      obtain rfl := Option.some.inj h
      simp only [stock?, kind]
    case h_2 => cases h
  tick {u _ _} h := by
    unfold tick at h
    split at h
    case h_1 m kind =>
      split at h
      case isTrue =>
        obtain ⟨rfl, -⟩ := Prod.mk.inj (Except.ok.inj h)
        rfl
      case isFalse =>
        simp only [Checked.bind_eq_ok_iff, Except.ok.injEq, Prod.mk.injEq] at h
        obtain ⟨body, -, rfl, -⟩ := h
        simp only [stock?, kind]
    case h_2 =>
      obtain ⟨rfl, -⟩ := Prod.mk.inj (Except.ok.inj h)
      rfl

/-- What has become of a node holds the same. -/
theorem bind_stock?_of_rel {o o' : Option GameUnit} (rel : Option.Rel Becomes o o') :
    o'.bind stock? = o.bind stock? := by
  cases rel with
  | none => rfl
  | some becomes => exact isLasting_stock.becomes becomes

/-- A harvest takes from the stock. -/
theorem harvest?_of_stock? (held : u.stock? = some s) (request : UInt32) :
    u.harvest? request = some (s.taken request, u.harvested request) ∧
      (u.harvested request).stock? = some (s.harvest request) := by
  have kind := stock?_eq_some_iff.mp held
  have given : u.harvest? request
      = some (s.taken request, { u with kind := .resource (s.harvest request) }) := by
    simp only [harvest?, kind]
  have harvested : u.harvested request = { u with kind := .resource (s.harvest request) } := by
    rw [GameUnit.harvested, given]
    rfl
  rw [harvested]
  exact ⟨given, rfl⟩

end GameUnit

/-- A usual node starts with what is usual for its kind. -/
theorem UnitPreset.amount_of_isUsual {preset : UnitPreset} {id : EntityId} {s : Stock}
    (usual : preset.IsUsual) (held : (preset.build id).stock? = some s) :
    s.amount = s.kind.startingAmount := by
  cases preset with
  | resource pos kind =>
    obtain rfl := Option.some.inj held
    rfl
  | villager => cases held
  | building => cases held
  | resourceNode => exact usual.elim
  | mobile => exact usual.elim

namespace World

variable {w w₁ w' : World} {op : Op} {reply : Option Reply} {id : EntityId} {s : Stock}

/-! ### Operations -/

/-- What the resource node of an id holds. -/
def stock? (w : World) (id : EntityId) : Option Stock := (w.unit? id).bind GameUnit.stock?

/-- What an operation requests of a node. -/
def Op.request (id : EntityId) : Op → Nat
  | harvest id' amount => if id' = id then amount.toNat else 0
  | _ => 0

/-- What an operation was given by a node, as its reply tells. -/
def Op.yield (id : EntityId) : Op → Option Reply → Nat
  | harvest id' _, some (.taken (some amount)) => if id' = id then amount.toNat else 0
  | _, _ => 0

/-- An operation that spares a node asks nothing of it and is given nothing. -/
theorem Op.Spares.request_yield (spares : op.Spares id) (reply : Option Reply) :
    op.request id = 0 ∧ op.yield id reply = 0 := by
  cases op with
  | harvest id' amount =>
    have other : id' ≠ id := Ne.symm spares
    refine ⟨if_neg other, ?_⟩
    unfold Op.yield
    split
    case h_1 eq =>
      obtain ⟨rfl, -⟩ := Op.harvest.inj eq
      exact if_neg other
    case h_2 => rfl
  | _ => exact ⟨rfl, rfl⟩

/-- An operation draws from a node what it was given, and nothing else. -/
theorem Numbered.drawn_perform (h : w.Numbered) (held : w.stock? id = some s)
    (performed : op.perform w = .ok (reply, w')) (remains : op ≠ .erase id) :
    ∃ left, w'.stock? id = some left ∧ s.Drawn (op.request id) (op.yield id reply) left := by
  obtain ⟨u, owned, holds⟩ := Option.bind_eq_some_iff.mp held
  cases (h.inStep.fates performed).unit id with
  | kept spares rel =>
    obtain ⟨request, yield⟩ := spares.request_yield reply
    rw [request, yield]
    exact ⟨s, (GameUnit.bind_stock?_of_rel rel).trans held, .refl s⟩
  | born new =>
    -- the id of a node that is there is not handed out again
    obtain rfl := new
    exact absurd (.inl (Option.isSome_of_eq_some owned)) h.roster.not_owns_next
  | erased => exact absurd rfl remains
  | damaged after =>
    refine ⟨s, ?_, .refl s⟩
    rw [World.stock?, after, owned]
    exact holds
  | @harvested request replied after =>
    obtain ⟨given, left⟩ := GameUnit.harvest?_of_stock? holds request
    refine ⟨s.harvest request, ?_, ?_⟩
    · rw [World.stock?, after, owned]
      exact left
    · rw [replied, owned, Option.bind_some, given, Option.map_some, Op.request, Op.yield,
        if_pos rfl, if_pos rfl]
      exact s.drawn_harvest request

/-! ### Runs -/

/-- All that a run requests of a node. -/
def requested (id : EntityId) : List Op → Nat
  | [] => 0
  | op :: ops => op.request id + requested id ops

/-- All that a run is given by a node. -/
def gathered (id : EntityId) : List Op → World → Nat
  | [], _ => 0
  | op :: ops, w => match op.perform w with
    | .ok (reply, w) => op.yield id reply + gathered id ops w
    | .error _ => 0

/-- A run draws from a node what it was given. -/
theorem Numbered.drawn_run {ops : List Op} {replies : List Reply} (h : w.Numbered)
    (held : w.stock? id = some s) (ran : World.run ops w = .ok (replies, w'))
    (remains : ∀ op ∈ ops, op ≠ .erase id) :
    ∃ left, w'.stock? id = some left ∧ s.Drawn (requested id ops) (gathered id ops w) left := by
  induction ops generalizing w replies s with
  | nil =>
    obtain ⟨-, rfl⟩ := Prod.mk.inj (Except.ok.inj ran)
    exact ⟨s, held, .refl s⟩
  | cons op ops ih =>
    simp only [World.run, Checked.bind_eq_ok_iff, Except.ok.injEq, Prod.mk.injEq] at ran
    obtain ⟨⟨reply, w₁⟩, performed, ⟨rest, w₂⟩, ran, -, rfl⟩ := ran
    obtain ⟨remains, later⟩ := List.forall_mem_cons.mp remains
    -- the later operations draw from what the first one leaves
    obtain ⟨s₁, held₁, drawn₁⟩ := h.drawn_perform held performed remains
    obtain ⟨left, held', drawn⟩ := ih (h.perform performed).1 held₁ ran later
    refine ⟨left, held', ?_⟩
    rw [requested, gathered, performed]
    exact drawn₁.trans drawn

/-! ### Beginnings -/

/-- A unit that is spawned holds what it was built with. -/
theorem stock?_of_spawnUnit {build : EntityId → Except Fault GameUnit}
    (spawn : w.spawnUnit build = .ok (some id, w')) :
    ∃ u, build id = .ok u ∧ w'.stock? id = u.stock? := by
  obtain ⟨u, -, built, -, ⟨none, -⟩ | ⟨u', some, new, becomes, roster⟩⟩ := of_spawnUnit spawn
  · cases none
  · obtain rfl := Option.some.inj some
    refine ⟨u, built, ?_⟩
    rw [World.stock?, World.unit?, roster, Roster.unit?_setUnit, if_pos new.symm]
    exact GameUnit.isLasting_stock.becomes becomes

/-- Every node holds what is usual for its kind. -/
def IsFull (w : World) : Prop := ∀ id s, w.stock? id = some s → s.amount = s.kind.startingAmount

theorem isFull_onMap {map : Map} {capacity : Nat} (started : World.onMap map capacity = .ok w) :
    w.IsFull := by
  obtain ⟨area, -, rfl⟩ := of_onMap started
  intro id s held
  cases held

theorem isFounding_isFull : IsFounding IsFull where
  remap h _ := h
  spawn {w w' _} preset usual h spawned id s held := by
    cases (fates_spawnUnit spawned).unit id with
    | kept _ rel => exact h id s ((GameUnit.bind_stock?_of_rel rel).symm.trans held)
    | @born _ u u' _ built becomes after =>
      obtain rfl := Except.ok.inj built
      rw [World.stock?, after, Option.bind_some, GameUnit.isLasting_stock.becomes becomes] at held
      exact UnitPreset.amount_of_isUsual usual held

/-- Nothing has been taken in a match that has just been founded. -/
theorem isFull_generate {settings : Settings} (generated : World.generate settings = .ok w) :
    w.IsFull :=
  isFounding_isFull.generateBy isFull_onMap generated

/-- A node gives what is asked of it as far as it has it. -/
theorem Numbered.exists_harvest (h : w.Numbered) (held : w.stock? id = some s) (request : UInt32) :
    ∃ w', w.harvest id request = (some (s.taken request), w') ∧
      w'.stock? id = some (s.harvest request) := by
  obtain ⟨u, owned, holds⟩ := Option.bind_eq_some_iff.mp held
  obtain ⟨given, left⟩ := GameUnit.harvest?_of_stock? holds request
  have replied : (w.harvest id request).1 = some (s.taken request) := by
    rw [World.harvest, owned, Option.bind_some, given]
  refine ⟨(w.harvest id request).2, Prod.ext replied rfl, ?_⟩
  rw [World.stock?, h.inStep.unit?_harvest, owned, Option.map_some, if_pos rfl]
  exact left

/-- Stocks are conserved.  In a founded match every node is full, and a node that is spawned holds
what it was built with.  From any time on until it is erased, whatever is done in between, what it
had is what it has left and what harvests of it have replied; and that is what was requested in all,
though no more than it had.  A harvest never replies more than was requested, and less only if it
leaves nothing. -/
theorem stock_of_run (reachable : w.Reachable) :
    (∀ settings, World.generate settings = .ok w → w.IsFull) ∧
    (∀ build id w₁, w.spawnUnit build = .ok (some id, w₁) →
      ∃ u, build id = .ok u ∧ w₁.stock? id = u.stock? ∧ w₁.Reachable) ∧
    ∀ id s ops replies w', w.stock? id = some s → run ops w = .ok (replies, w') →
      (∀ op ∈ ops, op ≠ .erase id) →
      ∃ left, w'.stock? id = some left ∧ left.kind = s.kind ∧
        s.amount.toNat = left.amount.toNat + gathered id ops w ∧
        gathered id ops w = min (requested id ops) s.amount.toNat ∧
        ∀ request, ∃ taken rest w₁, w'.harvest id request = (some taken, w₁) ∧
          w₁.stock? id = some rest ∧ taken ≤ request ∧
          (taken < request → rest.isDepleted = true) := by
  have numbered := reachable.numbered
  refine ⟨fun settings generated => isFull_generate generated, ?_, ?_⟩
  · intro build id w₁ spawn
    obtain ⟨u, built, held⟩ := stock?_of_spawnUnit spawn
    have performed : (Op.spawnUnit build).perform w = .ok (some (.spawned (some id)), w₁) :=
      Checked.map_eq_ok_iff.mpr ⟨_, spawn, rfl⟩
    exact ⟨u, built, held, reachable.perform performed⟩
  · intro id s ops replies w' held ran remains
    obtain ⟨left, held', drawn⟩ := numbered.drawn_run held ran remains
    refine ⟨left, held', drawn.kind, drawn.conserved, drawn.granted, ?_⟩
    intro request
    obtain ⟨w₁, harvested, rest⟩ := (numbered.run ran).exists_harvest held' request
    obtain ⟨le, depleted⟩ := left.taken_le_and_isDepleted request
    exact ⟨_, _, w₁, harvested, rest, le, depleted⟩

/-- A gold mine is harvested, damaged and moved while a tree is felled next to it; in the end far
more is requested than any stock can hold. -/
def diggings : List Op :=
  [.harvest ⟨1⟩ 150, .tick, .damage ⟨1⟩ 5, .relocate ⟨1⟩ ⟨1920, 1920⟩,
    .spawnUnit fun id => .ok (.resource id ⟨90, 40⟩ .wood), .harvest ⟨2⟩ 7, .erase ⟨2⟩,
    .rebuildIndex, .harvest ⟨1⟩ 0xFFFFFFFF, .harvest ⟨1⟩ 10]

theorem stock_of_diggings : ∃ w w₁ replies w', onMap (Map.empty.resize .small) 1 = .ok w ∧
    w.spawnUnit (fun id => .ok (.resource id ⟨40, 40⟩ .gold)) = .ok (some ⟨1⟩, w₁) ∧
    w₁.stock? ⟨1⟩ = some ⟨.gold, 400⟩ ∧ run diggings w₁ = .ok (replies, w') ∧
    requested ⟨1⟩ diggings = 4294967455 ∧ gathered ⟨1⟩ diggings w₁ = 400 ∧
    w'.stock? ⟨1⟩ = some ⟨.gold, 0⟩ := by
  have played : (onMap (Map.empty.resize .small) 1 >>= fun w =>
      w.spawnUnit (fun id => .ok (.resource id ⟨40, 40⟩ .gold)) >>= fun r =>
        (run diggings r.2).map fun _ => r.1) = .ok (some ⟨1⟩) := by
    decide +kernel
  obtain ⟨w, started, played⟩ := Checked.bind_eq_ok_iff.mp played
  obtain ⟨⟨spawned, w₁⟩, spawn, played⟩ := Checked.bind_eq_ok_iff.mp played
  obtain ⟨⟨replies, w'⟩, ran, rfl⟩ := Checked.map_eq_ok_iff.mp played
  obtain ⟨-, spawns, -⟩ := stock_of_run (.onMap started)
  obtain ⟨u, built, held, reachable⟩ := spawns _ _ _ spawn
  obtain rfl := Except.ok.inj built
  have remains : ∀ op ∈ diggings, op ≠ .erase ⟨1⟩ := by
    simp [diggings]
  obtain ⟨⟨kind, amount⟩, held', same, conserved, granted, -⟩ :=
    (stock_of_run reachable).2.2 ⟨1⟩ _ diggings replies w' held ran remains
  have all : requested ⟨1⟩ diggings = 4294967455 := rfl
  have gathered : gathered ⟨1⟩ diggings w₁ = 400 := by
    rw [granted, all]
    rfl
  have none : amount = 0 := by
    rw [gathered] at conserved
    exact UInt32.toNat_inj.mp (Nat.add_eq_right.mp conserved.symm)
  obtain rfl : kind = .gold := same
  exact ⟨w, w₁, replies, w', started, spawn, held, ran, all, gathered, none ▸ held'⟩

end World

end Skirmish
