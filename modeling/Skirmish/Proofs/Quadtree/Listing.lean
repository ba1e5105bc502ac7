import Mathlib.Data.List.Flatten
import Mathlib.Data.List.Perm.Basic
import Skirmish.Proofs.Entity.Id
import Skirmish.Proofs.Quadtree.Removal

/-!
# Listing and rebuilding

The entries of a sound index are listed without duplicates, and so are the units that can walk.
Filing the listed entries in an empty index gives an index that holds the same: its nodes are new,
its map is the old one.

## Main results

* `Sound.mem_listed`, `Sound.nodup_listed` — the entries of one family.
* `Sound.mem_mobileIds`, `Sound.ascending_mobileIds` — the units that can walk.
* `Sound.putAll` — entries with new ids are filed one after the other.
* `Sound.rebuild` — a rebuilt index holds the same entries.
-/

namespace Skirmish

namespace Quadtree

variable {t t' : Quadtree} {kind k : EntityKind} {id : EntityId} {e : Entry}

/-! ### Lists -/

theorem holds_iff_mem : t.Holds kind e ↔ ∃ n ∈ t.nodes.toList, e ∈ n.entries kind := by
  constructor
  · rintro ⟨i, n, hn, he⟩
    rw [← Array.getElem?_toList] at hn
    exact ⟨n, List.mem_of_getElem? hn, he⟩
  · rintro ⟨n, hn, he⟩
    obtain ⟨i, hi⟩ := List.mem_iff_getElem?.mp hn
    rw [Array.getElem?_toList] at hi
    exact ⟨i, n, hi, he⟩

/-- No id of a family stands in the index twice. -/
theorem Sound.nodup_ids (s : t.Sound) (kind : EntityKind) :
    (t.nodes.toList.flatMap fun n => (n.entries kind).map Entry.id).Nodup := by
  rw [List.nodup_flatMap]
  constructor
  · intro n hn
    obtain ⟨i, hi⟩ := List.mem_iff_getElem?.mp hn
    rw [Array.getElem?_toList] at hi
    exact (s.tidy hi).nodup kind
  · rw [List.pairwise_iff_getElem]
    intro i j hi hj lt id hid hid'
    obtain ⟨e, he, rfl⟩ := List.mem_map.mp hid
    obtain ⟨e', he', eq⟩ := List.mem_map.mp hid'
    have place {k : Nat} (hk : k < t.nodes.toList.length) :
        t.nodes[k]? = some t.nodes.toList[k] := by
      rw [← Array.getElem?_toList, List.getElem?_eq_getElem hk]
    have := s.place_unique (place hi) he (place hj) he' eq.symm
    omega

theorem Sound.mem_listed : e ∈ t.listed kind ↔ t.Holds kind e := by
  rw [listed, List.mem_mergeSort, List.mem_flatMap, holds_iff_mem]

theorem Sound.nodup_listed (s : t.Sound) (kind : EntityKind) :
    ((t.listed kind).map Entry.id).Nodup := by
  have perm := (List.mergeSort_perm (t.nodes.toList.flatMap fun n => n.entries kind) fun a b =>
    decide (a.id.number ≤ b.id.number)).map Entry.id
  rw [listed, perm.nodup_iff, List.map_flatMap]
  exact s.nodup_ids kind

/-! ### Units that can walk -/

theorem Sound.nodup_walkers (s : t.Sound) : (t.nodes.toList.flatMap Node.walkers).Nodup := by
  -- each node lists some of its units, without duplicates
  have perm : (t.nodes.toList.flatMap Node.walkers).Perm
      (t.nodes.toList.flatMap fun n => ((n.entries .unit).filter Entry.mobile).map Entry.id) := by
    refine List.Perm.flatMap_left _ ?_
    intro n hn
    obtain ⟨i, hi⟩ := List.mem_iff_getElem?.mp hn
    rw [Array.getElem?_toList] at hi
    exact (s.tidy hi).walkers
  rw [perm.nodup_iff]
  refine List.Nodup.sublist ?_ (s.nodup_ids .unit)
  exact List.Sublist.flatMap_right _ fun n _ => List.filter_sublist.map _

/-- The walkers are the units that can walk. -/
theorem Sound.mem_mobileIds (s : t.Sound) :
    id ∈ t.mobileIds ↔ ∃ e, t.lookup? .unit id = some e ∧ e.mobile := by
  rw [mobileIds, EntityId.mem_sort, List.mem_flatMap]
  constructor
  · rintro ⟨n, hn, hid⟩
    obtain ⟨i, hi⟩ := List.mem_iff_getElem?.mp hn
    rw [Array.getElem?_toList] at hi
    obtain ⟨e, he, rfl⟩ := List.mem_map.mp ((s.tidy hi).walkers.mem_iff.mp hid)
    obtain ⟨he, mobile⟩ := List.mem_filter.mp he
    exact ⟨e, s.lookup?_eq_some_iff.mpr ⟨⟨i, n, hi, he⟩, rfl⟩, mobile⟩
  · rintro ⟨e, found, mobile⟩
    obtain ⟨⟨i, n, hn, he⟩, rfl⟩ := s.lookup?_eq_some_iff.mp found
    refine ⟨n, List.mem_of_getElem? (Array.getElem?_toList ▸ hn), ?_⟩
    exact (s.tidy hn).walkers.mem_iff.mpr (List.mem_map_of_mem (List.mem_filter.mpr ⟨he, mobile⟩))

theorem Sound.ascending_mobileIds (s : t.Sound) : EntityId.Ascending t.mobileIds :=
  EntityId.ascending_sort s.nodup_walkers

/-! ### Rebuilding -/

theorem Sound.holds_iff (s : t.Sound) : t.Holds kind e ↔ t.lookup? kind e.id = some e := by
  rw [s.lookup?_eq_some_iff, and_iff_left rfl]

/-- Entries with new ids that fit are filed one after the other. -/
theorem Sound.putAll (s : t.Sound) {es : List Entry} (covers : ∀ e ∈ es, t.area.Covers e.box)
    (fresh : ∀ e ∈ es, t.lookup? kind e.id = none) (nodup : (es.map Entry.id).Nodup)
    (still : kind = .particle → ∀ e ∈ es, e.mobile = false) :
    Delivers (¬ t.area.Dividable) (fun t' => t'.Sound ∧ t'.area = t.area ∧ t'.capacity = t.capacity ∧
      ∀ {k e}, t'.Holds k e ↔ t.Holds k e ∨ k = kind ∧ e ∈ es) (t.putAll kind es) := by
  induction es generalizing t with
  | nil => exact ⟨s, rfl, rfl, by simp⟩
  | cons e es ih =>
    rw [List.map_cons, List.nodup_cons] at nodup
    have step := s.put (covers e List.mem_cons_self) (fresh e List.mem_cons_self)
      fun hk => still hk e List.mem_cons_self
    have put : Delivers (¬ t.area.Dividable) (fun t₁ => t.Rebinds t₁ kind e.id (some e))
        ((t.put kind e).map Prod.snd) := step.map fun r hr => hr.2
    refine put.bind ?_
    intro t₁ rebinds
    have rest := ih rebinds.sound ?_ ?_ nodup.2 ?_
    · apply (rest.weaken fun h => rebinds.area ▸ h).mono
      intro t' filed
      obtain ⟨s', area, capacity, holds⟩ := filed
      refine ⟨s', area.trans rebinds.area, capacity.trans rebinds.capacity, fun {k e'} => ?_⟩
      rw [holds, rebinds.sound.holds_iff, rebinds.lookup?_eq, s.holds_iff, List.mem_cons,
        and_or_left, ← or_assoc]
      refine or_congr_left ?_
      by_cases key : k = kind ∧ e'.id = e.id
      · obtain ⟨rfl, hid⟩ := key
        rw [if_pos ⟨rfl, hid⟩, hid, fresh e List.mem_cons_self]
        simp [eq_comm]
      · rw [if_neg key]
        refine (or_iff_left ?_).symm
        rintro ⟨rfl, rfl⟩
        exact key ⟨rfl, rfl⟩
    · intro e' he'
      rw [rebinds.area]
      exact covers e' (List.mem_cons_of_mem e he')
    · intro e' he'
      have : e'.id ≠ e.id := fun eq => nodup.1 (eq ▸ List.mem_map_of_mem he')
      rw [rebinds.lookup?_eq, if_neg fun key => this key.2]
      exact fresh e' (List.mem_cons_of_mem e he')
    · intro hk e' he'
      exact still hk e' (List.mem_cons_of_mem e he')

/-- A rebuilt index holds the same entries. -/
theorem Sound.delivers_rebuild (s : t.Sound) :
    Delivers (¬ t.area.Dividable) (fun t' => t'.Sound ∧ t.SameFiling t') t.rebuild := by
  have covers (k : EntityKind) (e : Entry) (he : e ∈ t.listed k) : t.area.Covers e.box :=
    s.area_covers (Sound.mem_listed.mp he)
  have still (e : Entry) (he : e ∈ t.listed .particle) : e.mobile = false :=
    Sound.still s (s.holds_iff.mp (Sound.mem_listed.mp he))
  have units : Delivers (¬ t.area.Dividable) _ (t.clear.putAll .unit (t.listed .unit)) :=
    (sound_clear t).putAll (covers .unit) (fun e _ => lookup?_clear t) (s.nodup_listed .unit) nofun
  apply units.bind
  intro t₁ filed
  obtain ⟨s₁, area₁, capacity₁, holds₁⟩ := filed
  have none_held {k : EntityKind} {e : Entry} : ¬ t.clear.Holds k e := by
    rw [(sound_clear t).holds_iff, lookup?_clear]
    nofun
  have area : t₁.area = t.area := area₁
  have fresh (e : Entry) (_ : e ∈ t.listed .particle) : t₁.lookup? .particle e.id = none := by
    rw [s₁.lookup?_eq_none_iff]
    intro e' he' _
    rcases holds₁.mp he' with held | ⟨hk, -⟩
    · exact none_held held
    · exact absurd hk (by decide)
  have particles := s₁.putAll (area ▸ covers .particle) fresh (s.nodup_listed .particle)
    fun _ => still
  apply (particles.weaken fun h => area ▸ h).mono
  intro t' filed'
  obtain ⟨s', area', capacity', holds'⟩ := filed'
  refine ⟨s', area'.trans area, capacity'.trans capacity₁, ?_⟩
  intro k e
  rw [holds', holds₁]
  cases k <;> simp [none_held, Sound.mem_listed]

/-- Over an exact area an index can be rebuilt. -/
theorem Sound.rebuild (s : t.Sound) :
    Delivers (¬ t.area.Exact) (fun t' => t'.Sound ∧ t.SameFiling t') t.rebuild :=
  s.delivers_rebuild.weaken (mt Box.Exact.dividable)

end Quadtree

end Skirmish
