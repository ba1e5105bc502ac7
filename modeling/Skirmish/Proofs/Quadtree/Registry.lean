import Skirmish.Proofs.Quadtree.Listing
import Skirmish.Proofs.Quadtree.Search

/-!
# The index stands for two finite maps

Whatever is done to an index, it answers like two finite maps: one from units to their boxes and
whether they can walk, and one from particles to their boxes.  The nodes, their splits and the
places of the entries do not show.

## Main definitions

* `Entity`, `Quadtree.Op`, `Quadtree.run` — what is filed, what is done, and several operations in
  a row.
* `Registry`, `Registry.run` — the two maps, and the same operations on them.
* `Quadtree.Represents` — a sound index with the bindings of two maps.
* `Quadtree.Shows` — an index that answers every question as two maps do.

## Main results

* `Represents.perform`, `Represents.run` — an operation, and a run, on the index and on the maps.
* `Represents.shows` — an index with the bindings of two maps answers as they do.
* `run_refines_registry` — every run from the empty index.
-/

namespace Skirmish

/-- What can be filed in the index. -/
inductive Entity where
  | unit (u : GameUnit)
  | particle (p : Particle)

namespace Entity

def kind : Entity → EntityKind
  | unit _ => .unit
  | particle _ => .particle

def entry : Entity → Entry
  | unit u => .ofUnit u
  | particle p => .ofParticle p

theorem still (x : Entity) : x.kind = .particle → x.entry.mobile = false := by
  cases x with
  | unit u => exact nofun
  | particle p => exact fun _ => rfl

end Entity

namespace Quadtree

/-! ### Runs of the index -/

/-- An operation on the index. -/
inductive Op where
  | put (x : Entity)
  | update (x : Entity)
  | erase (kind : EntityKind) (id : EntityId)
  | clear
  | rebuild

/-- What an operation replies, if it replies anything, and the index after it. -/
def Op.perform : Op → Quadtree → Except Fault (Option Bool × Quadtree)
  | put x, t => (t.put x.kind x.entry).map fun r => (some r.1, r.2)
  | update x, t => (t.update x.kind x.entry.id x.entry.box).map fun r => (some r.1, r.2)
  | erase kind id, t => (t.erase kind id).map fun r => (some r.1, r.2)
  | clear, t => .ok (none, t.clear)
  | rebuild, t => t.rebuild.map fun t => (none, t)

/-- Operations in a row, with their replies. -/
def run : List Op → Quadtree → Except Fault (List (Option Bool) × Quadtree)
  | [], t => .ok ([], t)
  | op :: ops, t => do
    let (reply, t) ← op.perform t
    let (replies, t) ← run ops t
    .ok (reply :: replies, t)

end Quadtree

/-! ### The two maps -/

/-- The two maps that an index stands for. -/
structure Registry where
  /-- The box of each unit, and whether it can walk. -/
  units : EntityId.Table (Box × Bool)
  /-- The box of each particle. -/
  particles : EntityId.Table Box

namespace Registry

open Quadtree (Op)

/-- The maps that bind nothing. -/
def empty : Registry := ⟨∅, ∅⟩

/-- The binding of an id, as an entry. -/
def lookup? (r : Registry) (kind : EntityKind) (id : EntityId) : Option Entry :=
  match kind with
  | .unit => (r.units[id]?).map fun b => ⟨id, b.1, b.2⟩
  | .particle => (r.particles[id]?).map fun box => ⟨id, box, false⟩

/-- The maps with an entry bound, in place of the binding of its id. -/
def bind (kind : EntityKind) (e : Entry) (r : Registry) : Registry :=
  match kind with
  | .unit => { r with units := r.units.insert e.id (e.box, e.mobile) }
  | .particle => { r with particles := r.particles.insert e.id e.box }

/-- The maps with an id unbound. -/
def unbind (kind : EntityKind) (id : EntityId) (r : Registry) : Registry :=
  match kind with
  | .unit => { r with units := r.units.erase id }
  | .particle => { r with particles := r.particles.erase id }

/-- What an operation does to the maps of an index over an area.  Only boxes that the area covers
are bound, and binding an id a second time is a fault. -/
def perform (area : Box) : Op → Registry → Except Fault (Option Bool × Registry)
  | .put x, r =>
    if area.Covers x.entry.box then
      if (r.lookup? x.kind x.entry.id).isSome then .error (.indexedTwice x.entry.id)
      else .ok (some true, r.bind x.kind x.entry)
    else .ok (some false, r)
  | .update x, r =>
    match r.lookup? x.kind x.entry.id with
    | none => .ok (some false, r)
    | some e =>
      if area.Covers x.entry.box then
        .ok (some true, r.bind x.kind { e with box := x.entry.box })
      else .ok (some false, r.unbind x.kind x.entry.id)
  | .erase kind id, r => .ok (some (r.lookup? kind id).isSome, r.unbind kind id)
  | .clear, _ => .ok (none, empty)
  | .rebuild, r => .ok (none, r)

/-- Operations in a row, with their replies. -/
def run (area : Box) : List Op → Registry → Except Fault (List (Option Bool) × Registry)
  | [], r => .ok ([], r)
  | op :: ops, r => do
    let (reply, r) ← r.perform area op
    let (replies, r) ← r.run area ops
    .ok (reply :: replies, r)

variable {r : Registry} {kind k : EntityKind} {id : EntityId} {e : Entry}

theorem lookup?_bind (still : kind = .particle → e.mobile = false) :
    (r.bind kind e).lookup? k id = if k = kind ∧ id = e.id then some e else r.lookup? k id := by
  cases kind with
  | unit =>
    cases k with
    | unit =>
      simp only [lookup?, bind, EntityId.getElem?_insert, true_and]
      split
      case isTrue eq => rw [eq]; rfl
      case isFalse => rfl
    | particle => rfl
  | particle =>
    cases k with
    | unit => rfl
    | particle =>
      simp only [lookup?, bind, EntityId.getElem?_insert, true_and]
      split
      case isTrue eq => rw [eq, Option.map_some, ← still rfl]
      case isFalse => rfl

theorem lookup?_unbind {id' : EntityId} : (r.unbind kind id).lookup? k id'
    = if k = kind ∧ id' = id then none else r.lookup? k id' := by
  cases kind <;> cases k <;> try rfl
  all_goals
    simp only [lookup?, unbind, EntityId.getElem?_erase, true_and]
    split <;> rfl

end Registry

/-! ### The simulation -/

namespace Quadtree

variable {t t' : Quadtree} {r : Registry} {kind : EntityKind} {id : EntityId} {e : Entry}

/-- A sound index with the bindings of two maps. -/
structure Represents (t : Quadtree) (r : Registry) : Prop where
  sound : t.Sound
  lookup?_eq : ∀ kind id, t.lookup? kind id = r.lookup? kind id

/-- An outcome of the index that agrees with the outcome of the maps; only at the edge of the
coordinate range the index may give an arithmetic fault instead. -/
def Follows {α : Type} (atEdge : Prop) (area : Box) (y : Except Fault (α × Registry)) :
    Except Fault (α × Quadtree) → Prop
  | .ok (a, t) => ∃ r, y = .ok (a, r) ∧ t.Represents r ∧ t.area = area
  | .error f => y = .error f ∨ atEdge ∧ f.IsArithmetic

theorem represents_empty (area : Box) (capacity : Nat) :
    (Quadtree.empty area capacity).Represents .empty where
  sound := sound_single area _
  lookup?_eq kind id := by
    rw [Quadtree.empty, lookup?_single]
    cases kind <;> simp [Registry.lookup?, Registry.empty]

theorem Represents.bind (h : t.Represents r) (still : kind = .particle → e.mobile = false)
    (rebinds : t.Rebinds t' kind e.id (some e)) : t'.Represents (r.bind kind e) where
  sound := rebinds.sound
  lookup?_eq k id := by rw [rebinds.lookup?_eq, Registry.lookup?_bind still, h.lookup?_eq]

theorem Represents.unbind (h : t.Represents r) (rebinds : t.Rebinds t' kind id none) :
    t'.Represents (r.unbind kind id) where
  sound := rebinds.sound
  lookup?_eq k id' := by rw [rebinds.lookup?_eq, Registry.lookup?_unbind, h.lookup?_eq]

theorem Follows.of_delivers {α β : Type} {atEdge : Prop} {area : Box} {post : β → Prop}
    {x : Except Fault β} {f : β → α × Quadtree} {y : Except Fault (α × Registry)}
    (hx : Delivers atEdge post x)
    (hf : ∀ b, post b → ∃ r, y = .ok ((f b).1, r) ∧ (f b).2.Represents r ∧ (f b).2.area = area) :
    Follows atEdge area y (x.map f) := by
  cases x with
  | ok b => exact hf b hx
  | error fault => exact .inr hx

theorem Follows.weaken {α : Type} {atEdge atEdge' : Prop} {area : Box}
    {x : Except Fault (α × Quadtree)} {y : Except Fault (α × Registry)}
    (h : Follows atEdge area y x) (imp : atEdge → atEdge') : Follows atEdge' area y x := by
  cases x with
  | ok a => exact h
  | error fault => exact h.imp_right (And.imp_left imp)

/-- An operation on the index and on the maps. -/
theorem Represents.perform (h : t.Represents r) (op : Op) :
    Follows (¬ t.area.Dividable) t.area (r.perform t.area op) (op.perform t) := by
  have s := h.sound
  cases op with
  | put x =>
    rw [Op.perform, Registry.perform, ← h.lookup?_eq]
    split
    case isFalse outside =>
      rw [put_of_not_covers outside]
      exact ⟨r, rfl, h, rfl⟩
    case isTrue covers =>
      split
      case isTrue filed =>
        rw [s.put_of_filed covers filed]
        exact .inl rfl
      case isFalse new =>
        apply Follows.of_delivers (s.put covers (by simpa using new) x.still)
        intro b hb
        obtain ⟨reply, rebinds⟩ := hb
        exact ⟨_, by rw [reply], h.bind x.still rebinds, rebinds.area⟩
  | update x =>
    rw [Op.perform, Registry.perform, ← h.lookup?_eq]
    apply Follows.of_delivers (s.update x.kind x.entry.id x.entry.box)
    intro b hb
    obtain ⟨reply, rebinds⟩ := hb
    cases found : t.lookup? x.kind x.entry.id with
    | none =>
      rw [found, Entry.relocated_none] at reply rebinds
      refine ⟨r, by rw [reply]; rfl, ⟨rebinds.sound, fun k id => ?_⟩, rebinds.area⟩
      rw [rebinds.lookup?_eq, ← h.lookup?_eq]
      split
      case isTrue key => rw [key.1, key.2, found]
      case isFalse => rfl
    | some e =>
      rw [found, Entry.relocated] at reply rebinds
      have hid := s.id_of_lookup?_eq_some found
      have still (hk : x.kind = .particle) : e.mobile = false := s.still (hk ▸ found)
      split at rebinds
      case isTrue covers =>
        rw [if_pos covers] at reply
        rw [Option.map_some, ← hid] at rebinds
        refine ⟨_, by rw [reply]; exact if_pos covers, ?_, rebinds.area⟩
        exact h.bind (e := { e with box := x.entry.box }) still rebinds
      case isFalse outside =>
        rw [if_neg outside] at reply
        exact ⟨_, by rw [reply]; exact if_neg outside, h.unbind rebinds, rebinds.area⟩
  | erase kind id =>
    obtain ⟨t', erased, rebinds⟩ := s.erase kind id
    rw [Op.perform, Registry.perform, ← h.lookup?_eq, erased]
    exact ⟨_, rfl, h.unbind rebinds, rebinds.area⟩
  | clear =>
    refine ⟨.empty, rfl, ⟨sound_clear t, fun kind id => ?_⟩, rfl⟩
    rw [lookup?_clear]
    cases kind <;> simp [Registry.lookup?, Registry.empty]
  | rebuild =>
    apply Follows.of_delivers s.delivers_rebuild
    intro t' rebuilt
    obtain ⟨s', same⟩ := rebuilt
    refine ⟨r, rfl, ⟨s', fun kind id => ?_⟩, same.area⟩
    rw [← h.lookup?_eq]
    exact s.lookup?_congr s' fun k e => same.holds_iff

/-- A run of the index and of the maps. -/
theorem Represents.follows_run (h : t.Represents r) (ops : List Op) :
    Follows (¬ t.area.Dividable) t.area (r.run t.area ops) (Quadtree.run ops t) := by
  induction ops generalizing t r with
  | nil => exact ⟨r, rfl, h, rfl⟩
  | cons op ops ih =>
    have step := h.perform op
    rw [Quadtree.run, Registry.run]
    cases hop : op.perform t with
    | error fault =>
      rw [hop] at step
      refine step.imp_left fun (eq : r.perform t.area op = .error fault) => ?_
      rw [eq]
      rfl
    | ok result =>
      obtain ⟨reply, t₁⟩ := result
      rw [hop] at step
      obtain ⟨r₁, performed, h₁, area⟩ := step
      have rest := ih h₁
      rw [area] at rest
      rw [performed, Checked.ok_bind, Checked.ok_bind]
      dsimp only
      cases hrun : Quadtree.run ops t₁ with
      | error fault =>
        rw [hrun] at rest
        refine rest.imp_left fun (eq : r₁.run t.area ops = .error fault) => ?_
        rw [eq]
        rfl
      | ok result =>
        obtain ⟨replies, t₂⟩ := result
        rw [hrun] at rest
        obtain ⟨r₂, ran, h₂, area₂⟩ := rest
        exact ⟨r₂, by rw [ran]; rfl, h₂, area₂⟩

/-- A run over an exact area has no faults of its own. -/
theorem Represents.run (h : t.Represents r) (ops : List Op) :
    Follows (¬ t.area.Exact) t.area (r.run t.area ops) (Quadtree.run ops t) :=
  (h.follows_run ops).weaken (mt Box.Exact.dividable)

/-! ### Answers -/

/-- An index that answers every question as two maps do. -/
structure Shows (t : Quadtree) (r : Registry) : Prop where
  lookup?_eq : ∀ kind id, t.lookup? kind id = r.lookup? kind id
  size_unit : t.size .unit = r.units.size
  size_particle : t.size .particle = r.particles.size
  contains_unit : ∀ id, t.contains .unit id = r.units.contains id
  contains_particle : ∀ id, t.contains .particle id = r.particles.contains id
  ascending_mobileIds : EntityId.Ascending t.mobileIds
  mem_mobileIds : ∀ id, id ∈ t.mobileIds ↔ ∃ box, r.units[id]? = some (box, true)
  /-- A query appends the units whose boxes meet the region, each of them once. -/
  query_unit : ∀ region out, ∃ hits : List EntityId,
    t.query .unit region out = .ok (out ++ hits) ∧ hits.Nodup ∧
      ∀ id, id ∈ hits ↔ ∃ box mobile, r.units[id]? = some (box, mobile) ∧ box.Meets region
  /-- A query appends the particles whose boxes meet the region, each of them once. -/
  query_particle : ∀ region out, ∃ hits : List EntityId,
    t.query .particle region out = .ok (out ++ hits) ∧ hits.Nodup ∧
      ∀ id, id ∈ hits ↔ ∃ box, r.particles[id]? = some box ∧ box.Meets region

/-- An index with the bindings of two maps answers every question as they do. -/
theorem Represents.shows (h : t.Represents r) : t.Shows r := by
  have s := h.sound
  have unit (id : EntityId) : t.contains .unit id = (r.units[id]?).isSome := by
    rw [s.contains_eq, h.lookup?_eq, Registry.lookup?, Option.isSome_map]
  have particle (id : EntityId) : t.contains .particle id = (r.particles[id]?).isSome := by
    rw [s.contains_eq, h.lookup?_eq, Registry.lookup?, Option.isSome_map]
  have home (kind : EntityKind) (id : EntityId) :
      ((t.homes kind)[id]?).isSome = t.contains kind id :=
    Std.ExtTreeMap.contains_eq_isSome_getElem?.symm
  refine ⟨h.lookup?_eq, ?_, ?_, ?_, ?_, s.ascending_mobileIds, ?_, ?_, ?_⟩
  · exact EntityId.size_eq_of_isSome fun id => (home .unit id).trans (unit id)
  · exact EntityId.size_eq_of_isSome fun id => (home .particle id).trans (particle id)
  · intro id
    exact (unit id).trans Std.ExtTreeMap.contains_eq_isSome_getElem?.symm
  · intro id
    exact (particle id).trans Std.ExtTreeMap.contains_eq_isSome_getElem?.symm
  · intro id
    rw [s.mem_mobileIds, h.lookup?_eq, Registry.lookup?]
    cases r.units[id]? with
    | none => simp
    | some b => simp [Prod.ext_iff]
  · intro region out
    obtain ⟨hits, found, nodup, mem⟩ := s.query .unit region out
    refine ⟨hits, found, nodup, fun id => ?_⟩
    rw [mem, h.lookup?_eq, Registry.lookup?]
    cases r.units[id]? with
    | none => simp
    | some b => simp [Prod.ext_iff]
  · intro region out
    obtain ⟨hits, found, nodup, mem⟩ := s.query .particle region out
    refine ⟨hits, found, nodup, fun id => ?_⟩
    rw [mem, h.lookup?_eq, Registry.lookup?]
    cases r.particles[id]? with
    | none => simp
    | some b => simp

/-- Every run from the empty index is a run of the two maps: it has their replies and answers as
they do afterwards, or faults as they do.  Only over an area that saturates at the edge of the
coordinate range a split may give an arithmetic fault instead. -/
theorem run_refines_registry (area : Box) (capacity : Nat) (ops : List Op) :
    match Quadtree.run ops (.empty area capacity) with
    | .ok (replies, t) => ∃ r, Registry.empty.run area ops = .ok (replies, r) ∧ t.Shows r
    | .error f => Registry.empty.run area ops = .error f ∨ ¬ area.Exact ∧ f.IsArithmetic := by
  have run := (represents_empty area capacity).run ops
  have same : (Quadtree.empty area capacity).area = area := rfl
  rw [same] at run
  cases hrun : Quadtree.run ops (.empty area capacity) with
  | error fault =>
    rw [hrun] at run
    exact run
  | ok result =>
    rw [hrun] at run
    obtain ⟨r, ran, represents, -⟩ := run
    exact ⟨r, ran, represents.shows⟩

end Quadtree

end Skirmish
