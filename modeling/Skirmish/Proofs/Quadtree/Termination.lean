import Skirmish.Proofs.Quadtree.History

/-!
# Ways down and searches come to an end

A way down takes turn after turn until it arrives, and a search visits place after place until none
is left.  Here both are relations, which nothing cuts off: they count the turns and list the visits
as long as there are any.

Each descent of a way leads one level deeper, and a node that has been split is not split again
before the way has left it.  So there are no more descents than levels, and no more splits than
levels that have one below them, even if all boxes coincide.  A search reaches a node from its
parent alone, so it visits no place twice.

## Main definitions

* `Quadtree.Way` — some turns of a way down, with the numbers of splits and descents among them.
* `Quadtree.Ends` — how a way ends.
* `Quadtree.SendsDown` — an entry is filed where its way from the root ends.
* `Quadtree.Paced` — what holds of a way from the root, given these numbers.
* `Quadtree.Search.Pops` — some visits of a search, with the places visited.
* `Quadtree.Prompt` — the bounds on ways down and searches.

## Main results

* `Paced.turn`, `Way.paced` — the pace of one turn, and of a way.
* `Entered.exists_way` — the way down that `seek` takes ends by itself.
* `Search.Pops.searched` — what the visits of a search have seen.
* `Sound.prompt`, `prompt_of_run` — the bounds, of a sound index and after every run.
-/

namespace Skirmish

namespace Quadtree

variable {t t' t₁ : Quadtree} {kind : EntityKind} {e : Entry} {box region : Box}
  {i j splits descents turns : Nat}

/-! ### Ways down -/

/-- Some turns of the way down of a box, from one node to another one, with the numbers of splits
and descents among them. -/
inductive Way (box : Box) (t : Quadtree) (i : Nat) : Nat → Nat → Quadtree → Nat → Prop
  | start : Way box t i 0 0 t i
  | descend {splits descents j k : Nat} {t' : Quadtree} (way : Way box t i splits descents t' j)
      (turn : t'.turn box j = .ok (.descend k)) : Way box t i splits (descents + 1) t' k
  | grow {splits descents j : Nat} {t' t₁ : Quadtree} (way : Way box t i splits descents t' j)
      (turn : t'.turn box j = .ok (.grown t₁)) : Way box t i (splits + 1) descents t₁ j

/-- How a way ends at the node that it has come to: the node takes the box, or there is a fault. -/
inductive Ends (box : Box) (t : Quadtree) (i : Nat) : Except Fault (Nat × Quadtree) → Prop
  | arrived (turn : t.turn box i = .ok .arrived) : Ends box t i (.ok (i, t))
  | failed {fault : Fault} (turn : t.turn box i = .error fault) : Ends box t i (.error fault)

/-- An entry is filed where its way from the root ends.  Over an area that is not dividable the way
may end with an arithmetic fault instead. -/
def SendsDown (t : Quadtree) (kind : EntityKind) (e : Entry) : Prop :=
  ∃ splits descents t' i, t.Way e.box 0 splits descents t' i ∧
    (t'.turn e.box i = .ok .arrived ∧ t.put kind e = .ok (true, t'.shelve kind e i) ∨
      ¬ t.area.Dividable ∧ ∃ fault, t'.turn e.box i = .error fault ∧
        t.put kind e = .error fault ∧ fault.IsArithmetic)

/-- A way from the root has come down a level with each descent, and on each level there has been
one split at most. -/
structure Paced (t : Quadtree) (i splits descents : Nat) : Prop where
  sound : t.Sound
  node : ∃ n : Node, t.nodes[i]? = some n ∧ n.level = descents ∧
    splits ≤ descents + if n.isLeaf then 0 else 1

/-- The pace after a turn. -/
def PacedTo (t : Quadtree) (i splits descents : Nat) : Turn → Prop
  | .arrived => True
  | .descend j => t.Paced j splits (descents + 1)
  | .grown t' => t'.Paced i (splits + 1) descents

/-- One turn keeps the pace. -/
theorem Paced.turn {turn : Turn} (h : t.Paced i splits descents) (ok : t.turn box i = .ok turn) :
    t.PacedTo i splits descents turn := by
  obtain ⟨s, n, hn, rfl, le⟩ := h
  cases turnAt_of_turn hn ok with
  | across | roomy | whole => trivial
  | inside link found =>
    rcases s.quarterFor?_cases hn link box with ⟨j, m, found', -, hm, level, -⟩ | ⟨none, -⟩
    · obtain rfl := Option.some.inj (Except.ok.inj (found'.symm.trans found))
      refine ⟨s, m, hm, level, ?_⟩
      rw [if_neg (by simp [Node.isLeaf, link])] at le
      exact Nat.le_trans le (Nat.le_add_right _ _)
    · rw [none] at found
      cases found
  | split leaf _ grown =>
    -- the node is not a leaf any more
    obtain ⟨s', -, -, n', hn', -, level, not_leaf⟩ := (s.split? hn).of_eq_ok grown _ rfl
    refine ⟨s', n', hn', level, ?_⟩
    rw [if_pos leaf] at le
    rw [if_neg not_leaf]
    exact Nat.add_le_add_right le 1

/-- A way from the root keeps the pace. -/
theorem Way.paced (s : t.Sound) (way : t.Way box 0 splits descents t' i) :
    t'.Paced i splits descents := by
  induction way with
  | start => exact ⟨s, t.root, t.nodes_zero, s.root_level, Nat.zero_le _⟩
  | descend _ turn ih => exact ih.turn turn
  | grow _ turn ih => exact ih.turn turn

/-- No node stands below the deepest level, and none that is split stands on it. -/
theorem Paced.le (h : t.Paced i splits descents) : splits ≤ 8 ∧ descents ≤ 8 := by
  obtain ⟨s, n, hn, rfl, le⟩ := h
  have level_le : n.level ≤ 8 := s.level_le hn
  split at le
  case isTrue => omega
  case isFalse split =>
    have level_lt : n.level < 8 := s.level_lt hn split
    omega

/-- The way down that a box is sent ends by itself, before it is out of turns. -/
theorem Entered.exists_way (h : t.Entered i turns box)
    (way : t₁.Way box j splits descents t i) :
    ∃ splits descents t' k, t₁.Way box j splits descents t' k ∧
      t'.Ends box k (t.seek box turns i) := by
  induction turns generalizing t i splits descents with
  | zero => exact absurd h.turns_pos (Nat.lt_irrefl 0)
  | succ turns ih =>
    have step := h.turn
    rw [Quadtree.seek]
    cases hturn : t.turn box i with
    | error fault => exact ⟨splits, descents, t, i, way, .failed hturn⟩
    | ok turn =>
      have after := step.of_eq_ok hturn
      cases turn with
      | arrived => exact ⟨splits, descents, t, i, way, .arrived hturn⟩
      | descend k => exact ih after (way.descend hturn)
      | grown t' => exact ih after.1 (way.grow hturn)

/-- An entry that is new and fits is sent down and filed. -/
theorem Sound.sendsDown (s : t.Sound) (covers : t.area.Covers e.box)
    (new : t.contains kind e.id = false) : t.SendsDown kind e := by
  have entered := s.entered_root covers
  have delivers := entered.seek
  obtain ⟨splits, descents, t', i, way, ends⟩ := entered.exists_way .start
  refine ⟨splits, descents, t', i, way, ?_⟩
  rw [Quadtree.put, if_pos covers, if_neg (by simp [new])]
  generalize t.seek e.box maxTurns 0 = outcome at ends delivers
  cases ends with
  | arrived turn => exact .inl ⟨turn, rfl⟩
  | failed turn => exact .inr ⟨delivers.1, _, turn, rfl, delivers.2⟩

/-! ### Searches -/

/-- Some visits of a search, with the places that are taken from the stack for them. -/
inductive Search.Pops (t : Quadtree) (kind : EntityKind) (region : Box) (s : Search) :
    List Nat → Search → Prop
  | start : Pops t kind region s [] s
  | pop {places rest : List Nat} {i : Nat} {s' s₁ : Search}
      (before : Pops t kind region s places s') (top : s'.stack = i :: rest)
      (visit : s'.visit t kind region = .ok s₁) : Pops t kind region s (places ++ [i]) s₁

section

variable {out : List EntityId} {places : List Nat} {search search' start : Search}

/-- What the visits of a search have seen. -/
theorem Search.Pops.searched (s : t.Sound)
    (h : Search.Pops t kind region ⟨[0], out⟩ places search) :
    t.Searched kind region out places search := by
  induction h with
  | start => exact searched_start t kind region out
  | pop _ top visit ih =>
    obtain ⟨next, visited, searched⟩ := ih.visit s top
    obtain rfl := Except.ok.inj (visited.symm.trans visit)
    exact searched

/-- Visits in a row take places from the stack until none is left. -/
theorem Search.Pops.exists_visits (before : Search.Pops t kind region start places search)
    (h : search.visits t kind region turns = .ok search') :
    ∃ places, Search.Pops t kind region start places search' := by
  induction turns generalizing search places with
  | zero =>
    obtain rfl := Except.ok.inj h
    exact ⟨places, before⟩
  | succ turns ih =>
    obtain ⟨next, visited, h⟩ := Checked.bind_eq_ok_iff.mp h
    cases top : search.stack with
    | nil =>
      rw [Search.visit, top] at visited
      obtain rfl := Except.ok.inj visited
      exact ih before h
    | cons i rest => exact ih (before.pop top visited) h

/-- The search of a query ends by itself, with an empty stack. -/
theorem Sound.query_ends (s : t.Sound) (kind : EntityKind) (out : List EntityId)
    (points : ¬ region.IsEmpty) : ∃ places found,
      Search.Pops t kind region ⟨[0], out⟩ places ⟨[], found⟩ ∧
        t.query kind region out = .ok found := by
  obtain ⟨-, found, searched, -⟩ := (searched_start t kind region out).visits s
    (Nat.le_add_left t.nodes.size _)
  obtain ⟨places, pops⟩ := Search.Pops.start.exists_visits searched
  refine ⟨places, found, pops, ?_⟩
  rw [Quadtree.query, if_neg points, searched, Checked.map_ok]

end

/-! ### The bounds -/

/-- The bounds on ways down and searches. -/
structure Prompt (t : Quadtree) : Prop where
  /-- A way down, wherever it stands, has made eight splits and eight descents at most. -/
  way_le : ∀ {box : Box} {splits descents i : Nat} {t' : Quadtree},
    t.Way box 0 splits descents t' i → splits ≤ 8 ∧ descents ≤ 8
  /-- An entry that is new and fits is filed where its way ends. -/
  sendsDown : ∀ {kind : EntityKind} {e : Entry}, t.area.Covers e.box →
    t.contains kind e.id = false → t.SendsDown kind e
  /-- No place is visited twice, or stands on the stack after its visit, and all of them are places
  of nodes; so there are no more visits than nodes. -/
  pops : ∀ {kind : EntityKind} {region : Box} {out : List EntityId} {places : List Nat}
    {search : Search}, Search.Pops t kind region ⟨[0], out⟩ places search →
      (places ++ search.stack).Nodup ∧ (∀ i ∈ places ++ search.stack, i < t.nodeCount) ∧
        places.length ≤ t.nodeCount
  /-- A query is answered by a search that has come to its end. -/
  query_ends : ∀ (kind : EntityKind) (region : Box) (out : List EntityId), ¬ region.IsEmpty →
    ∃ places found, Search.Pops t kind region ⟨[0], out⟩ places ⟨[], found⟩ ∧
      t.query kind region out = .ok found

/-- A sound index keeps the bounds. -/
theorem Sound.prompt (s : t.Sound) : t.Prompt where
  way_le way := (way.paced s).le
  sendsDown := s.sendsDown
  pops {_ _ _ places search} visits := by
    have searched := visits.searched s
    have length := searched.length_le
    rw [List.length_append] at length
    exact ⟨searched.nodup, fun _ => searched.bound, Nat.le_trans (Nat.le_add_right _ _) length⟩
  query_ends kind _ out := s.query_ends kind out

/-- After every run from the empty index the bounds hold: a way down makes eight splits and eight
descents at most before the entry is filed, and a search visits each node once at most. -/
theorem prompt_of_run {area : Box} {capacity : Nat} {ops : List Op}
    {replies : List (Option Bool)} (h : run ops (.empty area capacity) = .ok (replies, t)) :
    t.Prompt := by
  obtain ⟨tended, -, -⟩ := tended_of_run h
  exact tended.sound.prompt

/-- A piece of debris in the corner of a large area. -/
def litter : List Op := [.put (.particle (.debris ⟨1⟩ ⟨4, 4⟩ 1))]

/-- The bounds are reached by a second piece on top of it: eight splits make thirty-three nodes of
the one, and the piece comes down to the deepest level. -/
theorem prompt_of_litter : ∃ replies t,
    run litter (.empty ⟨⟨1024, 1024⟩, ⟨1024, 1024⟩⟩ 0) = .ok (replies, t) ∧ t.nodeCount = 1 ∧
      (t.put .particle (.ofParticle (.debris ⟨2⟩ ⟨4, 4⟩ 1))).map
        (fun r => (r.1, r.2.nodeCount, r.2.depth)) = .ok (true, 33, 8) ∧ t.Prompt := by
  have second : (run litter (.empty ⟨⟨1024, 1024⟩, ⟨1024, 1024⟩⟩ 0) >>= fun r =>
      (r.2.put .particle (.ofParticle (.debris ⟨2⟩ ⟨4, 4⟩ 1))).map fun r' =>
        (r.2.nodeCount, r'.1, r'.2.nodeCount, r'.2.depth)) = .ok (1, true, 33, 8) := by
    decide +kernel
  obtain ⟨⟨replies, t⟩, ran, second⟩ := Checked.bind_eq_ok_iff.mp second
  obtain ⟨r, put, answers⟩ := Checked.map_eq_ok_iff.mp second
  obtain ⟨count, after⟩ := Prod.mk.inj answers
  refine ⟨replies, t, ran, count, ?_, prompt_of_run ran⟩
  rw [put, Checked.map_ok, after]

end Quadtree

end Skirmish
