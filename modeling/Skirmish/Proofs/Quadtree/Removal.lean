import Skirmish.Proofs.Quadtree.Insertion

/-!
# Removing and relocating entries

An id that is filed under another box keeps its place if it still fits the leaf that holds it; else
it is removed and filed anew.  The map does not show which of the two has happened: the id has the
new box if the area covers it, and is not filed any more if not.

## Main definitions

* `Entry.relocated area box r` — what an id has after it was filed under another box.

## Main results

* `Sound.erase` — removal makes the map empty at the id.
* `Sound.update_of_rebox?`, `Sound.update_of_removed` — the two ways of relocation.
* `Sound.update` — relocation gives the id the new box, or removes it.
* `Sound.map_update` — what relocation says.
* `sound_clear`, `lookup?_clear` — the emptied index.
-/

namespace Skirmish

/-- What an id has after it was filed under another box in an index over an area. -/
def Entry.relocated (area box : Box) (r : Option Entry) : Option Entry :=
  if area.Covers box then r.map fun e => { e with box } else none

@[simp] theorem Entry.relocated_none (area box : Box) : relocated area box none = none := by
  simp [relocated]

namespace Quadtree

variable {t t' t₁ : Quadtree} {kind k : EntityKind} {id : EntityId} {i : Nat} {n m : Node}
  {e : Entry} {box : Box}

/-! ### Removal -/

theorem Sound.rebinds_self (s : t.Sound) {r : Option Entry} (h : t.lookup? kind id = r) :
    t.Rebinds t kind id r where
  sound := s
  area := rfl
  capacity := rfl
  lookup?_eq {k id'} := by
    split
    case isTrue key => rw [key.1, key.2, h]
    case isFalse => rfl

/-- Nothing is removed under an id without an entry. -/
theorem Sound.remove?_of_not_filed (s : t.Sound) (h : t.lookup? kind id = none) :
    t.remove? kind id = .ok none := by
  rw [Quadtree.remove?, s.home_eq_none_iff.mpr h]

/-- An entry is taken out of the node that holds it. -/
theorem Sound.exists_remove? (s : t.Sound) (hn : t.nodes[i]? = some n) (he : e ∈ n.entries kind) :
    ∃ m, n.remove? kind e.id = some (e, m) ∧ t.remove? kind e.id = .ok (some
      (e, (t.setHomes kind ((t.homes kind).erase e.id)).modifyNode i fun _ => m)) := by
  have found : n.remove? kind e.id ≠ none := fun none => Node.remove?_eq_none_iff.mp none e he rfl
  obtain ⟨⟨e', m⟩, hm⟩ := Option.ne_none_iff_exists'.mp found
  -- no other entry of the node has the id
  obtain ⟨hid, perm, -⟩ := Node.of_remove?_eq_some hm
  obtain rfl := (s.tidy hn).eq_of_id_eq (perm.mem_iff.mpr List.mem_cons_self) he hid
  refine ⟨m, hm, ?_⟩
  rw [Quadtree.remove?, s.home_of_mem hn he]
  simp only [node_eq_ok hn, Checked.ok_bind, hm]

/-- The entry of an id is removed. -/
theorem Sound.remove?_of_filed (s : t.Sound) (h : t.lookup? kind id = some e) :
    ∃ t', t.remove? kind id = .ok (some (e, t')) ∧ t.Rebinds t' kind id none ∧
      t'.frames = t.frames := by
  obtain ⟨⟨i, n, hn, he⟩, rfl⟩ := s.lookup?_eq_some_iff.mp h
  obtain ⟨m, hm, removed⟩ := s.exists_remove? hn he
  have refiling := s.refiling_remove hn (s.home_of_mem hn he) hm
  have gone : m.lookup? kind e.id = none := by
    rw [Option.eq_none_iff_forall_ne_some]
    intro a ha
    obtain ⟨ha, hid⟩ := refiling.tidy.lookup?_eq_some_iff.mp ha
    exact (((s.tidy hn).mem_remove? hm).mp ha).2 ⟨rfl, hid⟩
  refine ⟨_, removed, gone ▸ refiling.rebinds s ?_, refiling.frames⟩
  rw [capacity_modifyNode, capacity_setHomes]

/-- Removal says whether there was an entry, and there is none afterwards. -/
theorem Sound.erase (s : t.Sound) (kind : EntityKind) (id : EntityId) :
    ∃ t', t.erase kind id = .ok ((t.lookup? kind id).isSome, t') ∧ t.Rebinds t' kind id none := by
  cases h : t.lookup? kind id with
  | none =>
    refine ⟨t, ?_, s.rebinds_self h⟩
    rw [Quadtree.erase, s.remove?_of_not_filed h]
    rfl
  | some e =>
    obtain ⟨t', removed, rebinds, -⟩ := s.remove?_of_filed h
    refine ⟨t', ?_, rebinds⟩
    rw [Quadtree.erase, removed]
    rfl

/-! ### Relocation -/

theorem Sound.still (s : t.Sound) (h : t.lookup? .particle id = some e) : e.mobile = false := by
  obtain ⟨⟨i, n, hn, he⟩, -⟩ := s.lookup?_eq_some_iff.mp h
  exact (s.tidy hn).still e he

/-- An entry that stays within the leaf that holds it is changed in its place. -/
theorem Sound.update_of_rebox? (s : t.Sound) (hn : t.nodes[i]? = some n)
    (he : e ∈ n.entries kind) (hm : n.rebox? kind e.id box = some m) :
    t.update kind e.id box = .ok (true, t.modifyNode i fun _ => m) ∧
      t.Rebinds (t.modifyNode i fun _ => m) kind e.id (some { e with box }) ∧
      (t.modifyNode i fun _ => m).frames = t.frames := by
  have home := s.home_of_mem hn he
  have refiling := s.refiling_rebox hn home hm
  have entry : m.lookup? kind e.id = some { e with box } :=
    refiling.tidy.lookup?_eq_some_iff.mpr
      ⟨((s.tidy hn).mem_rebox? hm).mpr (.inr ⟨rfl, e, he, rfl, rfl⟩), rfl⟩
  refine ⟨?_, entry ▸ refiling.rebinds s rfl, refiling.frames⟩
  rw [Quadtree.update, home]
  simp only [node_eq_ok hn, Checked.ok_bind, hm]

/-- An entry that does not is removed and filed anew. -/
theorem Sound.update_of_removed (s : t.Sound) (hn : t.nodes[i]? = some n)
    (he : e ∈ n.entries kind) (leaves : n.rebox? kind e.id box = none)
    (removed : t.remove? kind e.id = .ok (some (e, t₁))) :
    t.update kind e.id box = t₁.put kind { e with box } := by
  rw [Quadtree.update, s.home_of_mem hn he]
  simp only [node_eq_ok hn, Checked.ok_bind, leaves, removed]

/-- Relocation says whether the id is filed afterwards, and it has the new box if so. -/
theorem Sound.update (s : t.Sound) (kind : EntityKind) (id : EntityId) (box : Box) :
    Delivers (¬ t.area.Dividable)
      (fun r => r.1 = (Entry.relocated t.area box (t.lookup? kind id)).isSome ∧
        t.Rebinds r.2 kind id (Entry.relocated t.area box (t.lookup? kind id)))
      (t.update kind id box) := by
  cases h : t.lookup? kind id with
  | none =>
    rw [Quadtree.update, s.home_eq_none_iff.mpr h, Entry.relocated_none]
    exact ⟨rfl, s.rebinds_self h⟩
  | some e =>
    obtain ⟨⟨i, n, hn, he⟩, rfl⟩ := s.lookup?_eq_some_iff.mp h
    cases hm : n.rebox? kind e.id box with
    | some m =>
      -- the leaf covers the new box, and so does the area
      obtain ⟨updated, rebinds, -⟩ := s.update_of_rebox? hn he hm
      have covers : t.area.Covers box :=
        (s.root_covers hn).trans (Node.of_rebox?_eq_some hm).2.1
      rw [updated, Entry.relocated, if_pos covers]
      exact ⟨rfl, rebinds⟩
    | none =>
      obtain ⟨t', removed, rebinds, -⟩ := s.remove?_of_filed h
      rw [s.update_of_removed hn he hm removed, Entry.relocated, ← rebinds.area]
      split
      case isTrue covers =>
        have absent : t'.lookup? kind e.id = none := by
          rw [rebinds.lookup?_eq, if_pos ⟨rfl, rfl⟩]
        have still (hk : kind = .particle) : e.mobile = false := s.still (hk ▸ h)
        refine (rebinds.sound.put (e := { e with box }) covers absent still).mono ?_
        intro r hr
        exact ⟨hr.1, rebinds.trans hr.2⟩
      case isFalse outside =>
        rw [put_of_not_covers (e := { e with box }) outside]
        exact ⟨rfl, rebinds⟩

/-- Whether an id is filed after relocation shows in the map alone. -/
theorem Sound.map_update (s : t.Sound) (exact : t.area.Exact) (kind : EntityKind) (id : EntityId)
    (box : Box) : (t.update kind id box).map Prod.fst
      = .ok (Entry.relocated t.area box (t.lookup? kind id)).isSome := by
  obtain ⟨r, hr, isFiled, -⟩ := (s.update kind id box).exists_ok (not_not_intro exact.dividable)
  rw [hr, Checked.map_ok, isFiled]

/-! ### The emptied index -/

theorem sound_clear (t : Quadtree) : t.clear.Sound := sound_single t.area t.capacity

@[simp] theorem lookup?_single (area : Box) (capacity : Nat) :
    (single area capacity).lookup? kind id = none := by
  have : ((single area capacity).homes kind)[id]? = none := by
    cases kind <;> exact Std.ExtTreeMap.getElem?_empty
  rw [Quadtree.lookup?, this]
  rfl

theorem lookup?_clear (t : Quadtree) : t.clear.lookup? kind id = none :=
  lookup?_single t.area t.capacity

end Quadtree

end Skirmish
