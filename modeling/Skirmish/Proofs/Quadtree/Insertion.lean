import Skirmish.Proofs.Quadtree.Split

/-!
# Filing entries

The way down starts at the root and ends at the node that takes the box.  Each turn of it ends the
way, goes one level deeper, or splits a leaf in its place, and a node has turns enough left for all
the levels below it.  So the way always ends, and filing an entry changes the map at its id alone.

## Main definitions

* `Quadtree.TurnAt` — what a turn at a node comes to, and why.
* `Node.turnsLeft` — how many turns a way down takes at most from a node.
* `Quadtree.Rebinds t t' kind id r` — the index stands for the same map, but for one id.

## Main results

* `turnAt_of_turn` — a turn is one of five kinds.
* `Entered.turn`, `Entered.seek` — one turn, and the whole way down.
* `put_of_not_covers`, `Sound.put_of_filed`, `Sound.put` — filing an entry that does not fit, that
  is filed already, and that is new.
* `Sound.map_put` — what filing an entry says.
-/

namespace Skirmish

/-- How many turns a way down takes at most from a node: a descent for each level below it and a
split on each of them, and the arrival. -/
def Node.turnsLeft (n : Node) : Nat :=
  2 * (Node.maxLevel - n.level) + if n.isLeaf then 1 else 0

namespace Quadtree

variable {t t' : Quadtree} {kind k : EntityKind} {id : EntityId} {i j : Nat} {n m : Node}
  {e : Entry} {box : Box}

/-! ### Kinds of turns -/

/-- What a turn at a node comes to: the box lies across the lines between the quarters of the node,
or inside one of them; the node is a leaf with room, one that cannot be split, or one that is
split. -/
inductive TurnAt (t : Quadtree) (box : Box) (i : Nat) (n : Node) : Turn → Prop
  | across {first : Nat} (link : n.firstQuarter = some first)
      (none : t.quarterFor? first box = .ok none) : TurnAt t box i n .arrived
  | inside {first j : Nat} (link : n.firstQuarter = some first)
      (found : t.quarterFor? first box = .ok (some j)) : TurnAt t box i n (.descend j)
  | roomy (leaf : n.isLeaf) (room : n.size < t.capacity) : TurnAt t box i n .arrived
  | whole (leaf : n.isLeaf) (full : t.capacity ≤ n.size) (unsplit : t.split? i = .ok none) :
      TurnAt t box i n .arrived
  | split {t' : Quadtree} (leaf : n.isLeaf) (full : t.capacity ≤ n.size)
      (grown : t.split? i = .ok (some t')) : TurnAt t box i n (.grown t')

/-- A turn that is no fault is of one of these kinds. -/
theorem turnAt_of_turn {turn : Turn} (hn : t.nodes[i]? = some n) (ok : t.turn box i = .ok turn) :
    t.TurnAt box i n turn := by
  rw [Quadtree.turn, node_eq_ok hn, Checked.ok_bind] at ok
  cases hf : n.firstQuarter with
  | some first =>
    simp only [hf, Checked.bind_eq_ok_iff] at ok
    obtain ⟨quarter, found, ok⟩ := ok
    cases quarter <;> obtain rfl := Except.ok.inj ok
    · exact .across hf found
    · exact .inside hf found
  | none =>
    have leaf : n.isLeaf := by simp [Node.isLeaf, hf]
    simp only [hf] at ok
    split at ok
    case isFalse not_full =>
      obtain rfl := Except.ok.inj ok
      exact .roomy leaf (Nat.lt_of_not_le not_full)
    case isTrue full =>
      obtain ⟨r, hr, ok⟩ := Checked.bind_eq_ok_iff.mp ok
      cases r <;> obtain rfl := Except.ok.inj ok
      · exact .whole leaf full hr
      · exact .split leaf full hr

/-! ### The way down -/

/-- The node of a place with a box to cover, from which a way down has turns enough. -/
structure Entered (t : Quadtree) (i turns : Nat) (box : Box) : Prop where
  sound : t.Sound
  node : ∃ n : Node, t.nodes[i]? = some n ∧ n.area.Covers box ∧ n.turnsLeft ≤ turns

/-- What a turn comes to.  A turn that does not end the way leaves one turn fewer to go. -/
def TurnedTo (t : Quadtree) (i turns : Nat) (box : Box) : Turn → Prop
  | .arrived => t.Takes i box
  | .descend j => t.Entered j turns box
  | .grown t' => t'.Entered i turns box ∧ t.SameFiling t'

/-- One turn of the way down. -/
theorem Entered.turn {turns : Nat} (h : t.Entered i (turns + 1) box) :
    Delivers (¬ t.area.Dividable) (t.TurnedTo i turns box) (t.turn box i) := by
  obtain ⟨s, n, hn, covers, le⟩ := h
  rw [Quadtree.turn, node_eq_ok hn, Checked.ok_bind]
  cases hf : n.firstQuarter with
  | some first =>
    have split : n.isLeaf = false := by simp [Node.isLeaf, hf]
    rcases s.quarterFor?_cases hn hf box with
      ⟨j, m, found, -, hm, hlevel, hcovers⟩ | ⟨none, lowest⟩
    · -- the quarter is one level deeper
      simp only [found, Checked.ok_bind]
      refine ⟨s, m, hm, hcovers, ?_⟩
      have := s.level_le hm
      rw [Node.turnsLeft, split] at le
      unfold Node.turnsLeft
      split <;> simp only [Bool.false_eq_true, if_false] at le <;> omega
    · simp only [none, Checked.ok_bind]
      exact ⟨⟨n, hn, covers⟩, lowest⟩
  | none =>
    have leaf : n.isLeaf := by simp [Node.isLeaf, hf]
    have takes : t.Takes i box := takes_of_isLeaf hn leaf covers
    simp only
    split
    case isFalse => exact takes
    case isTrue =>
      refine (s.split? hn).bind ?_
      intro r hr
      cases r with
      | none => exact takes
      | some t' =>
        -- the node is not a leaf any more
        obtain ⟨s', same, may, n', hn', area, level, not_leaf⟩ := hr t' rfl
        refine ⟨⟨s', n', hn', area ▸ covers, ?_⟩, same⟩
        rw [Node.turnsLeft, leaf] at le
        rw [Node.turnsLeft, if_neg not_leaf, level]
        simpa using le

/-- A way down is not out of turns before it ends: a node without a turn left would be split on the
deepest level. -/
theorem Entered.turns_pos {turns : Nat} (h : t.Entered i turns box) : 0 < turns := by
  obtain ⟨s, n, hn, -, le⟩ := h
  unfold Node.turnsLeft at le
  split at le
  case isTrue => omega
  case isFalse split =>
    have := s.level_lt hn split
    omega

/-- The whole way down ends at the node that takes the box. -/
theorem Entered.seek {turns : Nat} (h : t.Entered i turns box) :
    Delivers (¬ t.area.Dividable) (fun r => r.2.Sound ∧ t.SameFiling r.2 ∧ r.2.Takes r.1 box)
      (t.seek box turns i) := by
  induction turns generalizing t i with
  | zero => exact absurd h.turns_pos (Nat.lt_irrefl 0)
  | succ turns ih =>
    refine h.turn.bind ?_
    intro turn hturn
    cases turn with
    | arrived => exact ⟨h.sound, .refl t, hturn⟩
    | descend j => exact ih hturn
    | grown t' =>
      obtain ⟨entered, same⟩ := hturn
      rw [← same.area]
      apply (ih entered).mono
      intro r arrived
      obtain ⟨s, same', takes⟩ := arrived
      exact ⟨s, same.trans same', takes⟩

theorem Sound.entered_root (s : t.Sound) (covers : t.area.Covers box) :
    t.Entered 0 maxTurns box := by
  refine ⟨s, t.root, t.nodes_zero, covers, ?_⟩
  rw [Node.turnsLeft, s.root_level, maxTurns]
  split <;> omega

/-! ### The map after a change -/

/-- An index stands for the same map as another one, but for one id. -/
structure Rebinds (t t' : Quadtree) (kind : EntityKind) (id : EntityId) (r : Option Entry) :
    Prop where
  sound : t'.Sound
  area : t'.area = t.area
  capacity : t'.capacity = t.capacity
  lookup?_eq : ∀ {k : EntityKind} {id' : EntityId},
    t'.lookup? k id' = if k = kind ∧ id' = id then r else t.lookup? k id'

theorem Rebinds.trans {t₁ : Quadtree} {r₁ r : Option Entry} (h₁ : t.Rebinds t₁ kind id r₁)
    (h : t₁.Rebinds t' kind id r) : t.Rebinds t' kind id r where
  sound := h.sound
  area := h.area.trans h₁.area
  capacity := h.capacity.trans h₁.capacity
  lookup?_eq {k id'} := by
    rw [h.lookup?_eq, h₁.lookup?_eq]
    split <;> rfl

/-- An index with the same filing stands for the same map. -/
theorem SameFiling.rebinds {t₁ : Quadtree} {r : Option Entry} (same : t.SameFiling t₁)
    (s : t.Sound) (s₁ : t₁.Sound) (h : t₁.Rebinds t' kind id r) : t.Rebinds t' kind id r where
  sound := h.sound
  area := h.area.trans same.area
  capacity := h.capacity.trans same.capacity
  lookup?_eq {k id'} := by rw [h.lookup?_eq, s.lookup?_congr s₁ fun k e => same.holds_iff]

/-- A refiled index stands for the same map, but for the id. -/
theorem Refiling.rebinds (h : Refiling t t' kind id i n m) (s : t.Sound)
    (capacity : t'.capacity = t.capacity) : t.Rebinds t' kind id (m.lookup? kind id) where
  sound := h.sound s
  area := area_of_frames_eq h.frames
  capacity := capacity
  lookup?_eq := h.lookup? s

/-! ### Filing an entry -/

/-- An entry that does not fit changes nothing. -/
theorem put_of_not_covers (h : ¬ t.area.Covers e.box) : t.put kind e = .ok (false, t) := by
  rw [Quadtree.put, if_neg h]

/-- What fits is filed, unless that is a fault. -/
theorem filed_of_put {filed : Bool} (covers : t.area.Covers e.box)
    (h : t.put kind e = .ok (filed, t')) : filed = true := by
  rw [Quadtree.put, if_pos covers] at h
  split at h
  case isTrue => cases h
  case isFalse =>
    obtain ⟨⟨i, t₁⟩, -, h⟩ := Checked.bind_eq_ok_iff.mp h
    exact (Prod.mk.inj (Except.ok.inj h)).1.symm

/-- An id that is filed already is a fault. -/
theorem Sound.put_of_filed (s : t.Sound) (covers : t.area.Covers e.box)
    (h : (t.lookup? kind e.id).isSome) : t.put kind e = .error (.indexedTwice e.id) := by
  rw [Quadtree.put, if_pos covers, if_pos (s.contains_eq.trans h)]

/-- A new entry that fits is filed. -/
theorem Sound.put (s : t.Sound) (covers : t.area.Covers e.box)
    (h : t.lookup? kind e.id = none) (still : kind = .particle → e.mobile = false) :
    Delivers (¬ t.area.Dividable) (fun r => r.1 = true ∧ t.Rebinds r.2 kind e.id (some e))
      (t.put kind e) := by
  have not_filed : ¬ t.contains kind e.id := by rw [s.contains_eq, h]; nofun
  rw [Quadtree.put, if_pos covers, if_neg not_filed]
  apply (s.entered_root covers).seek.bind
  rintro ⟨i, t₁⟩ ⟨s₁, same, takes⟩
  refine ⟨rfl, ?_⟩
  obtain ⟨n, hn, -⟩ := takes.covers
  have fresh (e' : Entry) (he' : t₁.Holds kind e') : e'.id ≠ e.id :=
    s.lookup?_eq_none_iff.mp h e' (same.holds_iff.mp he')
  have refiling := s₁.refiling_shelve hn takes fresh still
  have entry : (n.push kind e).lookup? kind e.id = some e :=
    refiling.tidy.lookup?_eq_some_iff.mpr ⟨Node.mem_entries_push.mpr (.inr ⟨rfl, rfl⟩), rfl⟩
  refine same.rebinds s s₁ (entry ▸ refiling.rebinds s₁ ?_)
  rw [shelve, capacity_setHomes, capacity_modifyNode]

/-- An entry that is put without a fault is filed, or does not fit. -/
theorem Sound.of_put_eq_ok (s : t.Sound) {filed : Bool}
    (still : kind = .particle → e.mobile = false) (h : t.put kind e = .ok (filed, t')) :
    filed = true ∧ t.area.Covers e.box ∧ t.Rebinds t' kind e.id (some e) ∨
      filed = false ∧ t' = t := by
  by_cases covers : t.area.Covers e.box
  · cases new : t.lookup? kind e.id with
    | none =>
      obtain ⟨isFiled, rebinds⟩ := (s.put covers new still).of_eq_ok h
      exact .inl ⟨isFiled, covers, rebinds⟩
    | some _ =>
      rw [s.put_of_filed covers (by rw [new]; rfl)] at h
      cases h
  · rw [put_of_not_covers covers] at h
    cases h
    exact .inr ⟨rfl, rfl⟩

/-- Whether an entry is filed, and whether that is a fault, shows in the map alone. -/
theorem Sound.map_put (s : t.Sound) (exact : t.area.Exact)
    (still : kind = .particle → e.mobile = false) :
    (t.put kind e).map Prod.fst =
      if t.area.Covers e.box then
        if (t.lookup? kind e.id).isSome then .error (.indexedTwice e.id) else .ok true
      else .ok false := by
  split
  case isTrue covers =>
    split
    case isTrue filed => rw [s.put_of_filed covers filed, Checked.map_error]
    case isFalse new =>
      have put := s.put covers (Option.not_isSome_iff_eq_none.mp new) still
      obtain ⟨r, hr, isFiled, -⟩ := put.exists_ok (not_not_intro exact.dividable)
      rw [hr, Checked.map_ok, isFiled]
  case isFalse outside => rw [put_of_not_covers outside, Checked.map_ok]

end Quadtree

end Skirmish
