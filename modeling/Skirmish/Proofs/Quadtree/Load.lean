import Skirmish.Proofs.Quadtree.Chain
import Skirmish.Proofs.Quadtree.Listing

/-!
# Load and capacity

The load of an area is the number of boxes, among those that are put into an index, that it covers.
A leaf holds just its load.  Two bounds hold: the load of a leaf that can be split is at most the
capacity, and the load of a split node exceeds it.  As long as nothing is taken out, both are loads
of the same entries; a node stays split when its entries leave, so afterwards split nodes are
measured by all that has been filed.

While an entry is on its way down the bounds are apart for another reason: leaves are measured by
what is filed, split nodes by what is filed and the entry.  For a full leaf is split as soon as one
more box is known to lie inside it, even if the whole load goes to one quarter.

## Main definitions

* `Node.CanSplit` — whether a node can be split, or could before it was.
* `Quadtree.load` — the number of boxes that an area covers.
* `Quadtree.pooled` — the entries of both families in one list.
* `Quadtree.Files t xs` — the index holds those of some entries that it covers.
* `Quadtree.Bounds t xs ys` — the leaves are bounded by the load of `xs`, and the split nodes are
  accounted for by the load of `ys`.
* `Quadtree.Balanced t xs ys` — a sound index that files `xs` and keeps these bounds.

## Main results

* `Files.size_eq_load` — a leaf holds its load.
* `Balanced.split?`, `Balanced.turn`, `Balanced.seek` — the bounds on the way down.
* `Balanced.put` — an entry put into the index.
* `Balanced.split_iff` — which nodes are split.
* `Balanced.coarser` — of two indexes the one whose split nodes are accounted for is coarser than
  the one whose leaves are bounded.
-/

namespace Skirmish

/-! ### Nodes that can be split -/

namespace Node

/-- Whether a node can be split, or could before it was: it stands above the deepest level, and its
half-extents are even and large enough. -/
def CanSplit (n : Node) : Prop :=
  n.level < maxLevel ∧ (minHalf ≤ n.area.half.x ∧ minHalf ≤ n.area.half.y) ∧
    n.area.half.x % 2 = 0 ∧ n.area.half.y % 2 = 0

instance (n : Node) : Decidable n.CanSplit :=
  inferInstanceAs (Decidable (_ ∧ _))

variable {n m : Node}

theorem CanSplit.congr (h : n.CanSplit) (level : m.level = n.level) (area : m.area = n.area) :
    m.CanSplit := by
  rwa [CanSplit, level, area]

theorem canSplit_iff_of_frame_eq (h : m.frame = n.frame) : m.CanSplit ↔ n.CanSplit := by
  obtain ⟨area, level, -⟩ := frame_eq_iff.mp h
  rw [CanSplit, CanSplit, area, level]

theorem isLeaf_eq_of_frame_eq (h : m.frame = n.frame) : m.isLeaf = n.isLeaf := by
  rw [isLeaf, isLeaf, (frame_eq_iff.mp h).2.2]

theorem CanSplit.maySplit (h : n.CanSplit) (leaf : n.isLeaf) : n.MaySplit := by
  obtain ⟨level, ⟨large_x, large_y⟩, -⟩ := h
  exact ⟨leaf, level, large_x, large_y⟩

/-- A leaf whose area has quarters, be they in the coordinate range or not, could be split. -/
theorem MaySplit.canSplit (h : n.MaySplit) (divided : n.area.quarters? ≠ .ok none) :
    n.CanSplit := by
  obtain ⟨-, level, large⟩ := h
  refine ⟨level, large, ?_⟩
  simp only [Box.quarters?] at divided
  split at divided
  case isTrue => exact absurd rfl divided
  case isFalse even =>
    simp only [not_or, ne_eq, Decidable.not_not] at even
    exact even.2.2

/-- An area is divided if its node can be split. -/
theorem CanSplit.quarters?_ne_none (h : n.CanSplit) : n.area.quarters? ≠ .ok none := by
  obtain ⟨-, ⟨large_x, large_y⟩, even_x, even_y⟩ := h
  have two_le {c : Int32} (large : minHalf ≤ c) : ¬ c < 2 := by
    rw [Int32.le_iff_toInt_le] at large
    rw [Int32.lt_iff_toInt_lt]
    have : minHalf.toInt = 8 := rfl
    have : (2 : Int32).toInt = 2 := rfl
    omega
  intro none
  simp only [Box.quarters?] at none
  rw [if_neg (by simp [two_le large_x, two_le large_y, even_x, even_y])] at none
  simp [Checked.bind_eq_ok_iff] at none

end Node

namespace Quadtree

variable {t t' : Quadtree} {i j : Nat} {n m : Node} {x : EntityKind × Entry}
  {xs ys : List (EntityKind × Entry)}

/-! ### Load -/

/-- The number of boxes that an area covers. -/
def load (xs : List (EntityKind × Entry)) (area : Box) : Nat :=
  xs.countP fun x => decide (area.Covers x.2.box)

theorem load_cons_of_covers {area : Box} (h : area.Covers x.2.box) :
    load (x :: xs) area = load xs area + 1 := by
  simp [load, h]

theorem load_cons_of_not_covers {area : Box} (h : ¬ area.Covers x.2.box) :
    load (x :: xs) area = load xs area := by
  simp [load, h]

theorem load_le_load_cons (area : Box) : load xs area ≤ load (x :: xs) area := by
  by_cases h : area.Covers x.2.box
  · rw [load_cons_of_covers h]
    exact Nat.le_succ _
  · exact Nat.le_of_eq (load_cons_of_not_covers h).symm

/-- An area has at least the load of an area that it covers. -/
theorem load_mono {outer inner : Box} (h : outer.Covers inner) : load xs inner ≤ load xs outer := by
  apply List.countP_mono_left
  intro x _ covers
  simp only [decide_eq_true_eq] at covers ⊢
  exact h.trans covers

/-! ### Entries of both families -/

/-- The entries of both families in one list, units first. -/
def pooled (es : EntityKind → List Entry) : List (EntityKind × Entry) :=
  (es .unit).map (Prod.mk .unit) ++ (es .particle).map (Prod.mk .particle)

theorem mem_pooled {es : EntityKind → List Entry} {kind : EntityKind} {e : Entry} :
    (kind, e) ∈ pooled es ↔ e ∈ es kind := by
  cases kind <;> simp [pooled]

theorem nodup_pooled {es : EntityKind → List Entry} (h : ∀ kind, (es kind).Nodup) :
    (pooled es).Nodup := by
  have family (kind : EntityKind) : ((es kind).map (Prod.mk kind)).Nodup :=
    (h kind).map fun _ _ eq => (Prod.mk.inj eq).2
  refine (family .unit).append (family .particle) ?_
  intro x hunit hparticle
  obtain ⟨e, -, rfl⟩ := List.mem_map.mp hunit
  obtain ⟨e', -, eq⟩ := List.mem_map.mp hparticle
  cases eq

/-- The index holds those of some entries that it covers, and no others. -/
structure Files (t : Quadtree) (xs : List (EntityKind × Entry)) : Prop where
  nodup : xs.Nodup
  points : ∀ x ∈ xs, ¬ x.2.box.IsEmpty
  holds_iff : ∀ {k : EntityKind} {e : Entry}, t.Holds k e ↔ (k, e) ∈ xs ∧ t.area.Covers e.box

theorem Files.congr (f : t.Files xs) (same : t.SameFiling t') : t'.Files xs where
  nodup := f.nodup
  points := f.points
  holds_iff := by
    intro k e
    rw [same.holds_iff, f.holds_iff, same.area]

theorem Files.not_isEmpty (f : t.Files xs) {k : EntityKind} {e : Entry} (held : t.Holds k e) :
    ¬ e.box.IsEmpty :=
  f.points (k, e) (f.holds_iff.mp held).1

/-- A leaf holds the entries whose boxes it covers. -/
theorem Files.mem_entries_iff (f : t.Files xs) (s : t.Sound) (hn : t.nodes[i]? = some n)
    (leaf : n.isLeaf) {k : EntityKind} {e : Entry} :
    e ∈ n.entries k ↔ (k, e) ∈ xs ∧ n.area.Covers e.box := by
  constructor
  · intro he
    obtain ⟨n', hn', covers⟩ := (s.takes hn he).covers
    rw [Option.some.inj (hn.symm.trans hn')]
    exact ⟨(f.holds_iff.mp ⟨i, n, hn, he⟩).1, covers⟩
  · rintro ⟨mem, covers⟩
    obtain ⟨j, m, hm, he⟩ := f.holds_iff.mpr ⟨mem, (s.root_covers hn).trans covers⟩
    obtain rfl : j = i :=
      s.eq_of_takes_of_isLeaf (f.points _ mem) (s.takes hm he) hn leaf covers
    rwa [Option.some.inj (hn.symm.trans hm)]

/-- A leaf holds its load. -/
theorem Files.size_eq_load (f : t.Files xs) (s : t.Sound) (hn : t.nodes[i]? = some n)
    (leaf : n.isLeaf) : n.size = load xs n.area := by
  have nodup : (pooled n.entries).Nodup :=
    nodup_pooled fun kind => ((s.tidy hn).nodup kind).of_map Entry.id
  have perm : (pooled n.entries).Perm (xs.filter fun x => decide (n.area.Covers x.2.box)) := by
    rw [List.perm_ext_iff_of_nodup nodup (f.nodup.filter _)]
    rintro ⟨k, e⟩
    rw [mem_pooled, f.mem_entries_iff s hn leaf, List.mem_filter, decide_eq_true_iff]
  rw [load, List.countP_eq_length_filter, ← perm.length_eq]
  simp [pooled, Node.size, Node.entries]

/-! ### The bounds -/

/-- The leaves that can be split have at most the capacity for their load of `xs`, and only nodes
with a larger load of `ys` are split. -/
structure Bounds (t : Quadtree) (xs ys : List (EntityKind × Entry)) : Prop where
  leaves : ∀ {i : Nat} {n : Node}, t.nodes[i]? = some n → n.isLeaf → n.CanSplit →
    load xs n.area ≤ t.capacity
  splits : ∀ {i : Nat} {n : Node}, t.nodes[i]? = some n → ¬ n.isLeaf →
    n.CanSplit ∧ t.capacity < load ys n.area

/-- The bounds depend on the frames and the capacity alone. -/
theorem Bounds.congr (h : t.Bounds xs ys) (frames : t'.frames = t.frames)
    (capacity : t'.capacity = t.capacity) : t'.Bounds xs ys where
  leaves hm' leaf can := by
    obtain ⟨m, hm, frame⟩ := exists_of_frames_eq frames hm'
    rw [Node.isLeaf_eq_of_frame_eq frame] at leaf
    rw [Node.canSplit_iff_of_frame_eq frame] at can
    rw [(Node.frame_eq_iff.mp frame).1, capacity]
    exact h.leaves hm leaf can
  splits hm' split := by
    obtain ⟨m, hm, frame⟩ := exists_of_frames_eq frames hm'
    rw [Node.isLeaf_eq_of_frame_eq frame] at split
    rw [Node.canSplit_iff_of_frame_eq frame, (Node.frame_eq_iff.mp frame).1, capacity]
    exact h.splits hm split

/-- Loads are all that counts for the bounds. -/
theorem Bounds.congr_load {xs' ys' : List (EntityKind × Entry)} (h : t.Bounds xs ys)
    (hxs : ∀ {i : Nat} {n : Node}, t.nodes[i]? = some n → load xs' n.area = load xs n.area)
    (hys : ∀ {i : Nat} {n : Node}, t.nodes[i]? = some n → load ys' n.area = load ys n.area) :
    t.Bounds xs' ys' where
  leaves hn leaf can := by
    rw [hxs hn]
    exact h.leaves hn leaf can
  splits hn split := by
    rw [hys hn]
    exact h.splits hn split

/-- A sound index that files some entries and keeps the bounds. -/
structure Balanced (t : Quadtree) (xs ys : List (EntityKind × Entry)) : Prop
    extends t.Bounds xs ys where
  sound : t.Sound
  files : t.Files xs

/-- Of two indexes over one area with one capacity, the one whose split nodes are accounted for is
coarser than the one whose leaves are bounded. -/
theorem Balanced.coarser {zs : List (EntityKind × Entry)} (h : t.Balanced zs xs)
    (h' : t'.Balanced xs ys) (area : t.area = t'.area) (capacity : t.capacity = t'.capacity) :
    t.Coarser t' := by
  refine h.sound.toShape.coarser h'.sound.toShape area ?_
  intro i j n m hn hm level same leaf
  by_contra split
  obtain ⟨can, crowded⟩ := h.splits hn split
  have bounded := h'.leaves hm leaf (can.congr level same)
  rw [same, ← capacity] at bounded
  exact absurd crowded (Nat.not_lt.mpr bounded)

/-- If both bounds are measured by the entries that are filed, the nodes that are split are those
that can be and that cover more boxes than the capacity. -/
theorem Balanced.split_iff (h : t.Balanced xs xs) (hn : t.nodes[i]? = some n) :
    ¬ n.isLeaf ↔ n.CanSplit ∧ t.capacity < load xs n.area := by
  refine ⟨h.splits hn, ?_⟩
  rintro ⟨can, crowded⟩ leaf
  exact absurd crowded (Nat.not_lt.mpr (h.leaves hn leaf can))

theorem balanced_single (area : Box) (capacity : Nat) :
    (single area capacity).Balanced [] [] := by
  have s := sound_single area capacity
  refine ⟨⟨fun _ _ _ => Nat.zero_le _, ?_⟩, s, List.nodup_nil, nofun, ?_⟩
  · intro i n hn split
    exfalso
    apply split
    rw [isLeaf_iff hn]
    intro j hij
    have := s.lt_of_hasQuarter hij
    have : j < 1 := s.lt_size_of_hasQuarter hij
    omega
  · intro k e
    have none : (single area capacity).lookup? k e.id = none := lookup?_single area capacity
    simp only [List.not_mem_nil, false_and, iff_false]
    intro held
    exact s.lookup?_eq_none_iff.mp none e held rfl

/-! ### The way down -/

/-- A leaf that is split: its quarters are new leaves, and the other nodes keep their frames. -/
structure Divides (t t' : Quadtree) (i : Nat) (n : Node) : Prop where
  sound : t'.Sound
  same : t.SameFiling t'
  canSplit : n.CanSplit
  cases : ∀ {j : Nat} {m : Node}, t'.nodes[j]? = some m →
    (¬ m.isLeaf ∧ m.level = n.level ∧ m.area = n.area) ∨
      (∃ m₀ : Node, t.nodes[j]? = some m₀ ∧ m.frame = m₀.frame) ∨
      m.isLeaf ∧ n.area.Covers m.area

/-- A leaf is split if it can be. -/
theorem Sound.divides (s : t.Sound) (hn : t.nodes[i]? = some n) (leaf : n.isLeaf)
    {r : Option Quadtree} (h : t.split? i = .ok r) :
    (r = none ∧ ¬ n.CanSplit) ∨ ∃ t', r = some t' ∧ t.Divides t' i n := by
  rw [Quadtree.split?, node_eq_ok hn, Checked.ok_bind] at h
  split at h
  case isFalse may_not =>
    exact .inl ⟨(Except.ok.inj h).symm, fun can => may_not (can.maySplit leaf)⟩
  case isTrue may =>
    obtain ⟨-, hlevel, -⟩ := id may
    obtain ⟨quarters, hareas, h⟩ := Checked.bind_eq_ok_iff.mp h
    cases quarters with
    | none => exact .inl ⟨(Except.ok.inj h).symm, fun can => can.quarters?_ne_none hareas⟩
    | some areas =>
      obtain ⟨t₂, t', units, particles, s', same, frames⟩ := s.settle_leaf hn leaf hlevel hareas
      simp only [units, particles, Checked.ok_bind] at h
      refine .inr ⟨t', (Except.ok.inj h).symm, s', same, may.canSplit (by simp [hareas]), ?_⟩
      intro j m hm
      obtain ⟨m', hm', frame⟩ := exists_of_frames_eq frames hm
      obtain ⟨area, level, link⟩ := Node.frame_eq_iff.mp frame
      rcases cases_of_nodes_branch (lt_size_of_nodes hn) hm' with
        ⟨rfl, n', hn', rfl⟩ | ⟨-, hm₀⟩ | ⟨q, -, rfl⟩
      · obtain rfl : n = n' := Option.some.inj (hn.symm.trans hn')
        exact .inl ⟨by simp [Node.isLeaf, link, Node.branch], level, area⟩
      · exact .inr (.inl ⟨m', hm₀, frame⟩)
      · refine .inr (.inr ⟨by simp [Node.isLeaf, link, Node.leaf], ?_⟩)
        rw [area]
        exact (Box.isQuarter_get hareas q).covers

/-- A split of a full leaf that covers the box on its way. -/
theorem Balanced.split? (h : t.Balanced xs (x :: ys)) (sub : xs.Subperm ys)
    (hn : t.nodes[i]? = some n) (leaf : n.isLeaf) (full : t.capacity ≤ n.size)
    (covers : n.area.Covers x.2.box) (divides : t.Divides t' i n) :
    t'.Balanced xs (x :: ys) := by
  rw [h.files.size_eq_load h.sound hn leaf] at full
  have counted : load xs n.area ≤ load ys n.area := sub.countP_le _
  have bounded := h.leaves hn leaf divides.canSplit
  refine ⟨⟨?_, ?_⟩, divides.sound, h.files.congr divides.same⟩
  · intro j m hm hleaf can
    rw [divides.same.capacity]
    rcases divides.cases hm with ⟨split, -⟩ | ⟨m₀, hm₀, frame⟩ | ⟨-, inner⟩
    · exact absurd hleaf split
    · rw [Node.isLeaf_eq_of_frame_eq frame] at hleaf
      rw [Node.canSplit_iff_of_frame_eq frame] at can
      rw [(Node.frame_eq_iff.mp frame).1]
      exact h.leaves hm₀ hleaf can
    · exact Nat.le_trans (load_mono inner) bounded
  · intro j m hm split
    rw [divides.same.capacity]
    rcases divides.cases hm with ⟨-, level, area⟩ | ⟨m₀, hm₀, frame⟩ | ⟨hleaf, -⟩
    · rw [area, load_cons_of_covers covers]
      exact ⟨divides.canSplit.congr level area, Nat.lt_succ_of_le (Nat.le_trans full counted)⟩
    · rw [Node.isLeaf_eq_of_frame_eq frame] at split
      rw [Node.canSplit_iff_of_frame_eq frame, (Node.frame_eq_iff.mp frame).1]
      exact h.splits hm₀ split
    · exact absurd hleaf split

/-- A leaf that can be split has room for one entry more. -/
def HasRoom (t : Quadtree) (i : Nat) : Prop :=
  ∀ n : Node, t.nodes[i]? = some n → n.isLeaf → n.CanSplit → n.size < t.capacity

/-- What a turn on the way of an entry says about the bounds. -/
def TurnedBalanced (t : Quadtree) (i : Nat) (xs ys : List (EntityKind × Entry))
    (x : EntityKind × Entry) : Turn → Prop
  | .arrived => t.HasRoom i
  | .descend _ => True
  | .grown t' => t'.Balanced xs (x :: ys)

/-- One turn of the way down. -/
theorem Balanced.turn (h : t.Balanced xs (x :: ys)) (sub : xs.Subperm ys)
    (hn : t.nodes[i]? = some n) (covers : n.area.Covers x.2.box) {turn : Turn}
    (ok : t.turn x.2.box i = .ok turn) : t.TurnedBalanced i xs ys x turn := by
  have at_i {m : Node} (hm : t.nodes[i]? = some m) : m = n := Option.some.inj (hm.symm.trans hn)
  cases turnAt_of_turn hn ok with
  | across link =>
    have split : ¬ n.isLeaf := by simp [Node.isLeaf, link]
    exact fun m hm leaf => absurd (at_i hm ▸ leaf) split
  | inside => trivial
  | roomy _ room =>
    intro m hm _ _
    rw [at_i hm]
    exact room
  | whole leaf _ unsplit =>
    rcases h.sound.divides hn leaf unsplit with ⟨-, can_not⟩ | ⟨t', eq, -⟩
    · exact fun m hm _ can => absurd (at_i hm ▸ can) can_not
    · cases eq
  | split leaf full grown =>
    rcases h.sound.divides hn leaf grown with ⟨eq, -⟩ | ⟨t', eq, divides⟩
    · cases eq
    obtain rfl := Option.some.inj eq
    exact h.split? sub hn leaf full covers divides

/-- The whole way down. -/
theorem Balanced.seek {turns : Nat} (h : t.Balanced xs (x :: ys)) (sub : xs.Subperm ys)
    (entered : t.Entered i turns x.2.box) {r : Nat × Quadtree}
    (ok : t.seek x.2.box turns i = .ok r) : r.2.Balanced xs (x :: ys) ∧ r.2.HasRoom r.1 := by
  induction turns generalizing t i with
  | zero => exact absurd entered.turns_pos (Nat.lt_irrefl 0)
  | succ turns ih =>
    rw [Quadtree.seek, Checked.bind_eq_ok_iff] at ok
    obtain ⟨turn, hturn, ok⟩ := ok
    have next := entered.turn.of_eq_ok hturn
    obtain ⟨n, hn, covers, -⟩ := entered.node
    have step := h.turn sub hn covers hturn
    cases turn with
    | arrived =>
      obtain rfl := Except.ok.inj ok
      exact ⟨h, step⟩
    | descend j => exact ih h next ok
    | grown t' => exact ih step next.1 ok

/-! ### An entry more -/

/-- An entry shelved at the node that takes its box, which has room. -/
theorem Balanced.shelve (h : t.Balanced xs (x :: ys)) (points : ¬ x.2.box.IsEmpty)
    (takes : t.Takes i x.2.box) (room : t.HasRoom i) (fresh : x ∉ xs)
    (s' : t'.Sound) (gains : t.Gains t' x.1 [x.2]) : t'.Balanced (x :: xs) (x :: ys) := by
  have bounds : t.Bounds (x :: xs) (x :: ys) := by
    refine ⟨?_, h.splits⟩
    intro j m hm leaf can
    by_cases covers : m.area.Covers x.2.box
    · obtain rfl := h.sound.eq_of_takes_of_isLeaf points takes hm leaf covers
      rw [load_cons_of_covers covers, ← h.files.size_eq_load h.sound hm leaf]
      exact room m hm leaf can
    · rw [load_cons_of_not_covers covers]
      exact h.leaves hm leaf can
  refine ⟨bounds.congr gains.frames gains.capacity, s',
    List.nodup_cons.mpr ⟨fresh, h.files.nodup⟩, ?_, ?_⟩
  · exact List.forall_mem_cons.mpr ⟨points, h.files.points⟩
  · intro k e
    obtain ⟨m, hm, covers⟩ := takes.covers
    have covered : t.area.Covers x.2.box := (h.sound.root_covers hm).trans covers
    rw [gains.holds_iff, h.files.holds_iff, List.mem_singleton, List.mem_cons,
      area_of_frames_eq gains.frames, Prod.ext_iff, or_and_right, or_comm]
    refine or_congr_left ⟨?_, And.left⟩
    rintro ⟨rfl, rfl⟩
    exact ⟨⟨rfl, rfl⟩, covered⟩

/-- An entry that the index does not cover changes no load. -/
theorem Balanced.cons_of_not_covers (h : t.Balanced xs ys) (points : ¬ x.2.box.IsEmpty)
    (outside : ¬ t.area.Covers x.2.box) (fresh : x ∉ xs) : t.Balanced (x :: xs) (x :: ys) := by
  have same {zs : List (EntityKind × Entry)} {j : Nat} {m : Node} (hm : t.nodes[j]? = some m) :
      load (x :: zs) m.area = load zs m.area :=
    load_cons_of_not_covers fun covers => outside ((h.sound.root_covers hm).trans covers)
  refine ⟨h.congr_load same same, h.sound, List.nodup_cons.mpr ⟨fresh, h.files.nodup⟩, ?_, ?_⟩
  · exact List.forall_mem_cons.mpr ⟨points, h.files.points⟩
  · intro k e
    rw [h.files.holds_iff, List.mem_cons]
    refine and_congr_left fun covers => (or_iff_right ?_).symm
    rintro rfl
    exact outside covers

/-- An entry put into the index. -/
theorem Balanced.put (h : t.Balanced xs ys) (sub : xs.Subperm ys) (points : ¬ x.2.box.IsEmpty)
    (still : x.1 = .particle → x.2.mobile = false) (fresh : x ∉ xs) {r : Bool × Quadtree}
    (ok : t.put x.1 x.2 = .ok r) : r.2.Balanced (x :: xs) (x :: ys) := by
  by_cases covers : t.area.Covers x.2.box
  · rw [Quadtree.put, if_pos covers] at ok
    split at ok
    case isTrue => cases ok
    case isFalse new =>
      obtain ⟨⟨i, t₁⟩, sought, ok⟩ := Checked.bind_eq_ok_iff.mp ok
      obtain rfl := Except.ok.inj ok
      -- the entry itself is counted for the splits from the start
      have expected : t.Balanced xs (x :: ys) := by
        refine ⟨⟨h.leaves, fun hn split => ?_⟩, h.sound, h.files⟩
        obtain ⟨can, crowded⟩ := h.splits hn split
        exact ⟨can, Nat.lt_of_lt_of_le crowded (load_le_load_cons _)⟩
      have entered := h.sound.entered_root covers
      obtain ⟨s₁, same, takes⟩ := entered.seek.of_eq_ok sought
      obtain ⟨balanced, room⟩ := expected.seek sub entered sought
      have unfiled (e' : Entry) (he' : t₁.Holds x.1 e') : e'.id ≠ x.2.id := by
        rw [h.sound.contains_eq, Option.not_isSome_iff_eq_none] at new
        exact h.sound.lookup?_eq_none_iff.mp new e' (same.holds_iff.mp he')
      obtain ⟨s', gains⟩ := s₁.shelve takes unfiled still
      exact balanced.shelve points takes room fresh (s'.congr_waiting (by simp)) gains
  · rw [put_of_not_covers covers] at ok
    obtain rfl := Except.ok.inj ok
    exact h.cons_of_not_covers points covers fresh

end Quadtree

end Skirmish
