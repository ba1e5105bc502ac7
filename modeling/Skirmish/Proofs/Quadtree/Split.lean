import Skirmish.Proofs.Checked
import Skirmish.Proofs.Quadtree.Filing

/-!
# Splitting a full leaf

A split empties a leaf, adds four leaves over its quarters, and settles the old entries one after
the other.  Between these steps the index is sound but for the ids that wait to be settled; when
the last one is settled the index is sound again and holds what it held before.

## Main definitions

* `Quadtree.Gains t t' kind es` — the index gets some entries more and keeps its frames.
* `Quadtree.FreshlySplit` — a node is split and its quarters are leaves.
* `Quadtree.SameFiling` — two indexes over one area that hold the same entries.

## Main results

* `Shape.quarterFor?_cases` — the quarter of a box is found, or no quarter covers it.
* `SoundBut.shelve` — an entry filed at the node that takes its box.
* `SoundBut.settle_all` — all entries that wait settled.
* `Sound.split?` — a split keeps the index sound and its entries the same.
-/

namespace Skirmish

namespace Quadtree

variable {t t' : Quadtree} {kind k : EntityKind} {id : EntityId} {i j first : Nat} {n m : Node}
  {e : Entry} {waiting : EntityKind → EntityId → Prop}

/-! ### The quarter of a box -/

private theorem findM?_eq_ok {α ε : Type} {f : α → Except ε Bool} {p : α → Bool} :
    ∀ {l : List α}, (∀ a ∈ l, f a = .ok (p a)) → l.findM? f = .ok (l.find? p)
  | [], _ => rfl
  | a :: l, h => by
    have tail := findM?_eq_ok fun b hb => h b (List.mem_cons_of_mem a hb)
    rw [List.findM?, h a List.mem_cons_self, Checked.ok_bind, List.find?_cons]
    cases p a with
    | true => rfl
    | false => exact tail

private theorem mem_quarters : j ∈ [first, first + 1, first + 2, first + 3] ↔
    first ≤ j ∧ j < first + 4 := by
  simp only [List.mem_cons, List.not_mem_nil, or_false]
  omega

/-- The quarter of a box is found, or no quarter covers it. -/
theorem Shape.quarterFor?_cases (s : t.Shape) (hn : t.nodes[i]? = some n)
    (hf : n.firstQuarter = some first) (box : Box) :
    (∃ j m, t.quarterFor? first box = .ok (some j) ∧ t.HasQuarter i j ∧
      t.nodes[j]? = some m ∧ m.level = n.level + 1 ∧ m.area.Covers box) ∨
    (t.quarterFor? first box = .ok none ∧
      ∀ {j m}, t.HasQuarter i j → t.nodes[j]? = some m → ¬ m.area.Covers box) := by
  let covers (j : Nat) : Bool := t.nodes[j]?.any fun m => decide (m.area.Covers box)
  have found : t.quarterFor? first box
      = .ok ([first, first + 1, first + 2, first + 3].find? covers) := by
    refine findM?_eq_ok fun j hj => ?_
    obtain ⟨le, lt⟩ := mem_quarters.mp hj
    obtain ⟨-, m, -, hm, -⟩ := s.exists_quarter hn hf le lt
    simp [covers, node_eq_ok hm, hm]
  rw [found]
  cases hfind : [first, first + 1, first + 2, first + 3].find? covers with
  | some j =>
    obtain ⟨le, lt⟩ := mem_quarters.mp (List.mem_of_find?_eq_some hfind)
    obtain ⟨-, m, -, hm, -, hlevel⟩ := s.exists_quarter hn hf le lt
    have hcovers : covers j := List.find?_some hfind
    refine .inl ⟨j, m, rfl, ⟨n, first, hn, hf, le, lt⟩, hm, hlevel, ?_⟩
    simpa [covers, hm] using hcovers
  | none =>
    refine .inr ⟨rfl, fun {j m} hij hm => ?_⟩
    obtain ⟨n', first', hn', hf', le, lt⟩ := hij
    obtain rfl : n = n' := Option.some.inj (hn.symm.trans hn')
    obtain rfl : first = first' := Option.some.inj (hf.symm.trans hf')
    have := List.find?_eq_none.mp hfind j (mem_quarters.mpr ⟨le, lt⟩)
    simpa [covers, hm] using this

/-! ### One entry more -/

/-- An index gets some entries of one family more and keeps its frames. -/
structure Gains (t t' : Quadtree) (kind : EntityKind) (es : List Entry) : Prop where
  frames : t'.frames = t.frames
  capacity : t'.capacity = t.capacity
  holds_iff : ∀ {k : EntityKind} {e : Entry}, t'.Holds k e ↔ t.Holds k e ∨ k = kind ∧ e ∈ es

theorem Gains.nil (t : Quadtree) (kind : EntityKind) : t.Gains t kind [] :=
  ⟨rfl, rfl, by simp⟩

theorem Gains.cons {t₁ : Quadtree} {es : List Entry} (h₁ : t.Gains t₁ kind [e])
    (h₂ : t₁.Gains t' kind es) : t.Gains t' kind (e :: es) where
  frames := h₂.frames.trans h₁.frames
  capacity := h₂.capacity.trans h₁.capacity
  holds_iff := by
    intro k e'
    rw [h₂.holds_iff, h₁.holds_iff, List.mem_singleton, List.mem_cons, or_assoc, and_or_left]

/-- An entry filed at the node that takes its box does not wait any more. -/
theorem SoundBut.shelve (s : t.SoundBut waiting) (takes : t.Takes i e.box)
    (fresh : ∀ e', t.Holds kind e' → e'.id ≠ e.id) (still : kind = .particle → e.mobile = false) :
    (t.shelve kind e i).SoundBut (fun k id => waiting k id ∧ ¬ (k = kind ∧ id = e.id)) ∧
      t.Gains (t.shelve kind e i) kind [e] := by
  obtain ⟨n, hn, -⟩ := takes.covers
  have refiling := s.refiling_shelve hn takes fresh still
  refine ⟨refiling.soundBut s Iff.rfl, refiling.frames, ?_, ?_⟩
  · rw [Quadtree.shelve, capacity_setHomes, capacity_modifyNode]
  · intro k e'
    rw [refiling.holds_iff, List.mem_singleton]
    split
    case isTrue key =>
      obtain ⟨rfl, hid⟩ := key
      rw [Node.mem_entries_push]
      refine or_congr_left' fun _ => ⟨fun he' => ⟨i, n, hn, he'⟩, fun he' => ?_⟩
      exact absurd hid (fresh e' he')
    case isFalse key =>
      refine (or_iff_left ?_).symm
      rintro ⟨rfl, rfl⟩
      exact key ⟨rfl, rfl⟩

/-! ### All entries of a leaf -/

/-- A node over an area is split, and its quarters are leaves. -/
structure FreshlySplit (t : Quadtree) (i first : Nat) (area : Box) : Prop where
  node : ∃ n : Node, t.nodes[i]? = some n ∧ n.firstQuarter = some first ∧ n.area = area
  leaves : ∀ {j k : Nat}, t.HasQuarter i j → ¬ t.HasQuarter j k

theorem FreshlySplit.congr {area : Box} (h : t.FreshlySplit i first area)
    (frames : t'.frames = t.frames) : t'.FreshlySplit i first area where
  node := by
    obtain ⟨n, hn, link, harea⟩ := h.node
    obtain ⟨n', hn', eq⟩ := exists_of_frames_eq frames.symm hn
    obtain ⟨area', -, link'⟩ := Node.frame_eq_iff.mp eq
    exact ⟨n', hn', link' ▸ link, area' ▸ harea⟩
  leaves hij hjk := h.leaves (hasQuarter_of_frames_eq frames hij)
    (hasQuarter_of_frames_eq frames hjk)

/-- One entry that waits is settled. -/
theorem SoundBut.settle {area : Box} (s : t.SoundBut waiting) (h : t.FreshlySplit i first area)
    (covers : area.Covers e.box) (hw : waiting kind e.id)
    (still : kind = .particle → e.mobile = false) :
    ∃ t', t.settle kind i first e = .ok t' ∧
      t'.SoundBut (fun k id => waiting k id ∧ ¬ (k = kind ∧ id = e.id)) ∧
      t.Gains t' kind [e] := by
  have fresh (e' : Entry) (he' : t.Holds kind e') : e'.id ≠ e.id := fun hid =>
    s.absent he' (hid ▸ hw)
  obtain ⟨n, hn, hf, rfl⟩ := h.node
  rcases s.quarterFor?_cases hn hf e.box with ⟨j, m, found, hij, hm, -, hcovers⟩ | ⟨none, lowest⟩
  · have takes : t.Takes j e.box := ⟨⟨m, hm, hcovers⟩, fun hjk => absurd hjk (h.leaves hij)⟩
    exact ⟨_, by rw [Quadtree.settle, found]; rfl, s.shelve takes fresh still⟩
  · have takes : t.Takes i e.box := ⟨⟨n, hn, covers⟩, lowest⟩
    exact ⟨_, by rw [Quadtree.settle, none]; rfl, s.shelve takes fresh still⟩

/-- All entries that wait are settled, one after the other. -/
theorem SoundBut.settle_all {area : Box} {es : List Entry} (s : t.SoundBut waiting)
    (h : t.FreshlySplit i first area) (covers : ∀ e ∈ es, area.Covers e.box)
    (hw : ∀ e ∈ es, waiting kind e.id) (nodup : (es.map Entry.id).Nodup)
    (still : kind = .particle → ∀ e ∈ es, e.mobile = false) :
    ∃ t', es.foldlM (Quadtree.settle kind i first) t = .ok t' ∧
      t'.SoundBut (fun k id => waiting k id ∧ ¬ (k = kind ∧ id ∈ es.map Entry.id)) ∧
      t.Gains t' kind es := by
  induction es generalizing t waiting with
  | nil => exact ⟨t, rfl, by simpa using s, .nil t kind⟩
  | cons e es ih =>
    rw [List.map_cons, List.nodup_cons] at nodup
    obtain ⟨t₁, settled, s₁, gains⟩ := s.settle h (covers e List.mem_cons_self)
      (hw e List.mem_cons_self) fun hk => still hk e List.mem_cons_self
    -- the other entries still wait, since their ids differ
    have hw₁ (e' : Entry) (he' : e' ∈ es) : waiting kind e'.id ∧ ¬ (kind = kind ∧ e'.id = e.id) := by
      refine ⟨hw e' (List.mem_cons_of_mem e he'), ?_⟩
      rintro ⟨-, hid⟩
      apply nodup.1
      rw [← hid]
      exact List.mem_map_of_mem he'
    obtain ⟨t', folded, s', gains'⟩ := ih s₁ (h.congr gains.frames)
      (fun e' he' => covers e' (List.mem_cons_of_mem e he')) hw₁ nodup.2
      fun hk e' he' => still hk e' (List.mem_cons_of_mem e he')
    refine ⟨t', by rw [List.foldlM_cons, settled]; exact folded, ?_, gains.cons gains'⟩
    refine s'.congr_waiting ?_
    intro k id
    rw [List.map_cons, List.mem_cons, and_assoc, ← not_or, ← and_or_left]

/-! ### The split -/

/-- Two indexes over one area, with one capacity, that hold the same entries. -/
structure SameFiling (t t' : Quadtree) : Prop where
  area : t'.area = t.area
  capacity : t'.capacity = t.capacity
  holds_iff : ∀ {k : EntityKind} {e : Entry}, t'.Holds k e ↔ t.Holds k e

theorem SameFiling.refl (t : Quadtree) : t.SameFiling t := ⟨rfl, rfl, Iff.rfl⟩

theorem SameFiling.trans {t₁ : Quadtree} (h₁ : t.SameFiling t₁) (h₂ : t₁.SameFiling t') :
    t.SameFiling t' :=
  ⟨h₂.area.trans h₁.area, h₂.capacity.trans h₁.capacity, h₂.holds_iff.trans h₁.holds_iff⟩

section

variable {areas : Quad Box}

/-- After a branch a node holds its old entries, but for those of the leaf. -/
private theorem held_branch (s : t.Sound) (hn : t.nodes[i]? = some n) :
    (∃ m : Node, (t.branch i (n.level + 1) areas).nodes[j]? = some m ∧ e ∈ m.entries k) ↔
      (∃ m : Node, t.nodes[j]? = some m ∧ e ∈ m.entries k) ∧ e ∉ n.entries k := by
  have hi := lt_size_of_nodes hn
  constructor
  · rintro ⟨m, hm, he⟩
    rcases cases_of_nodes_branch hi hm with ⟨-, n', -, rfl⟩ | ⟨ne, hm⟩ | ⟨q, -, rfl⟩
    · cases k <;> exact absurd he List.not_mem_nil
    · exact ⟨⟨m, hm, he⟩, fun he' => ne (s.place_unique hm he hn he' rfl)⟩
    · cases k <;> exact absurd he List.not_mem_nil
  · rintro ⟨⟨m, hm, he⟩, not_here⟩
    have ne : j ≠ i := by
      rintro rfl
      obtain rfl : n = m := Option.some.inj (hn.symm.trans hm)
      exact not_here he
    exact ⟨m, by rw [nodes_branch_of_ne hi (lt_size_of_nodes hm) ne, hm], he⟩

/-- After a branch the entries of the leaf are held no more. -/
theorem Sound.holds_branch (s : t.Sound) (hn : t.nodes[i]? = some n) :
    (t.branch i (n.level + 1) areas).Holds k e ↔ t.Holds k e ∧ e ∉ n.entries k := by
  simp only [Holds, held_branch s hn, exists_and_right]

/-- A branch leaves the index sound but for the ids of the leaf. -/
theorem Sound.branch (s : t.Sound) (hn : t.nodes[i]? = some n) (hleaf : n.isLeaf)
    (hlevel : n.level < Node.maxLevel) (hareas : n.area.quarters? = .ok (some areas)) :
    (t.branch i (n.level + 1) areas).SoundBut fun k id => id ∈ (n.entries k).map Entry.id := by
  have hi := lt_size_of_nodes hn
  refine ⟨s.toShape.branch hn hleaf hlevel hareas, ?_, ?_, ?_, ?_⟩
  · intro j m hm
    rcases cases_of_nodes_branch hi hm with ⟨-, n', -, rfl⟩ | ⟨-, hm⟩ | ⟨q, -, rfl⟩
    · exact Node.tidy_branch _ _
    · exact s.tidy hm
    · exact Node.tidy_leaf _ _
  · intro k id j not_waiting
    have homes : (t.branch i (n.level + 1) areas).homes k = t.homes k := by cases k <;> rfl
    rw [homes, s.home_iff]
    constructor
    · rintro ⟨m, hm, e, he, rfl⟩
      have not_here : e ∉ n.entries k := fun he' => not_waiting (List.mem_map_of_mem he')
      obtain ⟨m', hm', he'⟩ : ∃ m : Node,
          (t.branch i (n.level + 1) areas).nodes[j]? = some m ∧ e ∈ m.entries k :=
        (held_branch s hn).mpr ⟨⟨m, hm, he⟩, not_here⟩
      exact ⟨m', hm', e, he', rfl⟩
    · rintro ⟨m, hm, e, he, rfl⟩
      obtain ⟨⟨m', hm', he'⟩, -⟩ := (held_branch s hn).mp ⟨m, hm, he⟩
      exact ⟨m', hm', e, he', rfl⟩
  · intro k j m e hm he
    rcases cases_of_nodes_branch hi hm with ⟨-, n', -, rfl⟩ | ⟨ne, hm'⟩ | ⟨q, -, rfl⟩
    · cases k <;> exact absurd he List.not_mem_nil
    · have takes := s.takes hm' he
      obtain ⟨m', hm₁, covers⟩ := takes.covers
      obtain rfl : m = m' := Option.some.inj (hm'.symm.trans hm₁)
      refine ⟨⟨m, hm, covers⟩, fun {j' q} hjj' hq => ?_⟩
      have old : t.HasQuarter j j' :=
        ((hasQuarter_branch hn hleaf).mp hjj').resolve_right fun new => ne new.1
      -- the node of an old link keeps its area
      rcases cases_of_nodes_branch hi hq with ⟨rfl, n', hn', rfl⟩ | ⟨-, hq⟩ | ⟨q', eq, -⟩
      · intro covers
        exact takes.lowest old hn' covers
      · exact takes.lowest old hq
      · have := s.lt_size_of_hasQuarter old
        omega
    · cases k <;> exact absurd he List.not_mem_nil
  · intro k e he w
    obtain ⟨he, not_here⟩ := (s.holds_branch hn).mp he
    obtain ⟨e', he', hid⟩ := List.mem_map.mp w
    exact not_here (s.eq_of_holds ⟨i, n, hn, he'⟩ he hid ▸ he')

theorem freshlySplit_branch (hn : t.nodes[i]? = some n) (hleaf : n.isLeaf) :
    (t.branch i (n.level + 1) areas).FreshlySplit i t.nodes.size n.area where
  node := ⟨_, nodes_branch_self hn, rfl, rfl⟩
  leaves {j k} hij hjk := by
    have hi := lt_size_of_nodes hn
    have not_split {j : Nat} : ¬ t.HasQuarter i j := by
      rintro ⟨n', first, hn', hf, -⟩
      obtain rfl : n = n' := Option.some.inj (hn.symm.trans hn')
      simp [Node.isLeaf, hf] at hleaf
    obtain ⟨-, new, -⟩ := ((hasQuarter_branch hn hleaf).mp hij).resolve_left not_split
    rcases (hasQuarter_branch hn hleaf).mp hjk with ⟨m, -, hm, -⟩ | ⟨rfl, -⟩
    · exact absurd (lt_size_of_nodes hm) (Nat.not_lt.mpr new)
    · exact absurd hi (Nat.not_lt.mpr new)

/-- A leaf is branched and its entries are settled, units first: the index is sound again and holds
what it held. -/
theorem Sound.settle_leaf (s : t.Sound) (hn : t.nodes[i]? = some n) (hleaf : n.isLeaf)
    (hlevel : n.level < Node.maxLevel) (hareas : n.area.quarters? = .ok (some areas)) :
    ∃ t₂ t', n.units.foldlM (Quadtree.settle .unit i t.nodes.size)
        (t.branch i (n.level + 1) areas) = .ok t₂ ∧
      n.particles.foldlM (Quadtree.settle .particle i t.nodes.size) t₂ = .ok t' ∧
      t'.Sound ∧ t.SameFiling t' ∧ t'.frames = (t.branch i (n.level + 1) areas).frames := by
  have s₁ := s.branch hn hleaf hlevel hareas
  have fresh : (t.branch i (n.level + 1) areas).FreshlySplit i t.nodes.size n.area :=
    freshlySplit_branch hn hleaf
  have covers (k : EntityKind) (e : Entry) (he : e ∈ n.entries k) : n.area.Covers e.box := by
    obtain ⟨n', hn', covers⟩ := (s.takes hn he).covers
    rwa [Option.some.inj (hn.symm.trans hn')]
  obtain ⟨t₂, units, s₂, gains₂⟩ := s₁.settle_all fresh (covers .unit)
    (fun e he => List.mem_map_of_mem he) ((s.tidy hn).nodup .unit) nofun
  obtain ⟨t₃, particles, s₃, gains₃⟩ := s₂.settle_all (fresh.congr gains₂.frames)
    (covers .particle) (fun e he => ⟨List.mem_map_of_mem he, nofun⟩)
    ((s.tidy hn).nodup .particle) fun _ => (s.tidy hn).still
  have frames := gains₃.frames.trans gains₂.frames
  refine ⟨t₂, t₃, units, particles, s₃.congr_waiting fun k id => ?_, ⟨?_, ?_, fun {k e} => ?_⟩,
    frames⟩
  · cases k <;> simp
  · rw [area_of_frames_eq frames]
    exact (root_branch (lt_size_of_nodes hn)).1
  · rw [gains₃.capacity, gains₂.capacity]
    rfl
  · have here (he : e ∈ n.entries k) : t.Holds k e := ⟨i, n, hn, he⟩
    rw [gains₃.holds_iff, gains₂.holds_iff, s.holds_branch hn]
    by_cases he : e ∈ n.entries k
    · cases k <;> simp [he, here he]
    · cases k <;> simp [he]

end

/-- A split, if there is one, keeps the index sound and its entries the same; the node is a split
one after it. -/
theorem Sound.split? (s : t.Sound) (hn : t.nodes[i]? = some n) :
    Delivers (¬ t.area.Dividable) (fun r => ∀ t' ∈ r, t'.Sound ∧ t.SameFiling t' ∧ n.MaySplit ∧
      ∃ n' : Node, t'.nodes[i]? = some n' ∧ n'.area = n.area ∧ n'.level = n.level ∧ ¬ n'.isLeaf)
      (t.split? i) := by
  rw [Quadtree.split?, node_eq_ok hn, Checked.ok_bind]
  split
  case isFalse => exact fun _ => nofun
  case isTrue may =>
    obtain ⟨hleaf, hlevel, large_x, large_y⟩ := id may
    cases hareas : n.area.quarters? with
    | error fault =>
      refine ⟨fun dividable => ?_, Box.isArithmetic_of_quarters?_eq_error hareas⟩
      obtain ⟨areas, ok⟩ := dividable n.level n.area (s.part hn) hlevel large_x large_y
      simp [hareas] at ok
    | ok quarters =>
      cases quarters with
      | none => exact fun _ => nofun
      | some areas =>
        obtain ⟨t₂, t', units, particles, s', same, frames⟩ :=
          s.settle_leaf hn hleaf hlevel hareas
        simp only [Checked.ok_bind, units, particles]
        rintro _ ⟨⟩
        have branched : (t.branch i (n.level + 1) areas).nodes[i]?
            = some (n.branch t.nodes.size) := nodes_branch_self hn
        obtain ⟨n', hn', frame⟩ := exists_of_frames_eq frames.symm branched
        obtain ⟨area, level, link⟩ := Node.frame_eq_iff.mp frame
        refine ⟨s', same, may, n', hn', area.symm, level.symm, ?_⟩
        simp [Node.isLeaf, ← link, Node.branch]

end Quadtree

end Skirmish
