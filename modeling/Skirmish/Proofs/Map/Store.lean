import Skirmish.Map.Operation
import Skirmish.Proofs.Map.Cells

/-!
# The grid is a faithful store

Two cells inside a grid have different places in its buffers, so a cell keeps what was written to it
until it is written again or the grid is replaced.  What a map holds is therefore read off the
operations since its last allocation, and the viewport has no part in it.

## Main definitions

* `Grid.lookup?` — what a buffer holds for a cell.
* `Map.dimensions`, `Map.recent` — the last allocation of a history, and the operations after it.
* `Map.lastTerrain`, `Map.lastHeight` — what was last written to a cell.
* `Map.Records` — a map that holds what its history has written.
* `Map.Op.Complies` — what an operation may change.

## Main results

* `Grid.index?_injective` — cells have different places.
* `Map.allocate_eq`, `Map.resize_eq` — the allocations that are granted.
* `Map.Op.complies_perform` — every operation on every map.
* `Map.Records.perform`, `Map.records_run` — one operation, and a run.
* `Map.faithful_run` — the two together.
-/

namespace Skirmish

/-! ### Buffers -/

namespace Grid

variable {g : Grid} {col row col' row' : UInt32} {i : Nat} {α : Type}

/-- Two cells with the same place are the same cell. -/
theorem index?_injective (h : g.index? col row = some i) (h' : g.index? col' row' = some i) :
    col = col' ∧ row = row' := by
  have place {c r : UInt32} (h : g.index? c r = some i) :
      c.toNat = i % g.width.toNat ∧ r.toNat = i / g.width.toNat := by
    unfold index? at h
    split at h
    case isTrue inside =>
      obtain rfl := Option.some.inj h
      have lt := UInt32.lt_iff_toNat_lt.mp inside.1
      have positive : 0 < g.width.toNat := Nat.zero_lt_of_lt lt
      rw [Nat.mul_comm, Nat.mul_add_mod, Nat.mod_eq_of_lt lt, Nat.mul_add_div positive,
        Nat.div_eq_of_lt lt, Nat.add_zero]
      exact ⟨rfl, rfl⟩
    case isFalse => cases h
  obtain ⟨hcol, hrow⟩ := place h
  obtain ⟨hcol', hrow'⟩ := place h'
  exact ⟨UInt32.toNat_inj.mp (hcol.trans hcol'.symm), UInt32.toNat_inj.mp (hrow.trans hrow'.symm)⟩

theorem exists_index? (inside : col < g.width ∧ row < g.height) :
    ∃ i, g.index? col row = some i :=
  ⟨_, if_pos inside⟩

/-- What a buffer holds at the place of a cell. -/
def lookup? (g : Grid) (buffer : Array α) (col row : UInt32) : Option α :=
  (g.index? col row).bind fun i => buffer[i]?

theorem terrainAt?_eq_lookup? : g.terrainAt? col row = g.lookup? g.terrain col row := rfl

theorem heightAt?_eq_lookup? : g.heightAt? col row = g.lookup? g.heights col row := rfl

/-- A grid of the same size with the same buffer has the same in its cells. -/
theorem lookup?_congr {g' : Grid} (sameSize : g.SameSize g') (buffer : Array α)
    (col row : UInt32) : g'.lookup? buffer col row = g.lookup? buffer col row := by
  rw [lookup?, index?, sameSize.1, sameSize.2]
  rfl

/-- Writing at the place of a cell changes what the buffer holds for that cell only. -/
theorem lookup?_setIfInBounds (h : g.index? col row = some i) {buffer : Array α}
    (size : buffer.size = g.width.toNat * g.height.toNat) (a : α) (col' row' : UInt32) :
    g.lookup? (buffer.setIfInBounds i a) col' row'
      = if col' = col ∧ row' = row then some a else g.lookup? buffer col' row' := by
  have lt : i < buffer.size := by
    rw [size]
    exact lt_of_index? h
  split
  case isTrue same =>
    rw [same.1, same.2, lookup?, h, Option.bind_some, Array.getElem?_setIfInBounds_self_of_lt lt]
  case isFalse other =>
    unfold lookup?
    cases h' : g.index? col' row' with
    | none => rfl
    | some j =>
      have ne : i ≠ j := by
        rintro rfl
        exact other (index?_injective h' h)
      rw [Option.bind_some, Option.bind_some, Array.getElem?_setIfInBounds_ne ne]

/-- A blank buffer holds the same for every cell. -/
theorem lookup?_replicate (a : α) :
    g.lookup? (Array.replicate (g.width.toNat * g.height.toNat) a) col row
      = if col < g.width ∧ row < g.height then some a else none := by
  unfold lookup?
  split
  case isTrue inside =>
    have h : g.index? col row = some (row.toNat * g.width.toNat + col.toNat) := if_pos inside
    rw [h, Option.bind_some, Array.getElem?_replicate, if_pos (lt_of_index? h)]
  case isFalse outside => rw [index?, if_neg outside, Option.bind_none]

/-- The height that is stored for a height. -/
def capped (height : UInt8) : UInt8 := if height ≤ maxHeight then height else maxHeight

end Grid

namespace Map

variable {m : Map} {op : Op} {ops : List Op} {col row : UInt32}

/-! ### Allocations -/

/-- Whether a request for a grid succeeds. -/
def Allocates (granted : Bool) (width height : UInt32) : Prop :=
  width ≠ 0 ∧ height ≠ 0 ∧ granted

instance {granted : Bool} {width height : UInt32} : Decidable (Allocates granted width height) :=
  inferInstanceAs (Decidable (_ ∧ _ ∧ _))

variable {granted : Bool} {width height : UInt32}

/-- A request that succeeds brings a blank grid and keeps the viewport. -/
theorem reallocate_of_allocates (h : Allocates granted width height) (m : Map) :
    m.reallocate granted width height = (.ok (), { m with grid := .blank width height }) := by
  have allocated : Grid.allocate granted width height = .ok (.blank width height) := by
    rw [Grid.allocate, if_neg (not_or.mpr ⟨h.1, h.2.1⟩), if_pos h.2.2]
  rw [reallocate, allocated]

/-- A request that fails leaves the map as it is. -/
theorem exists_reallocate_of_not_allocates (h : ¬ Allocates granted width height) (m : Map) :
    ∃ e, m.reallocate granted width height = (.error e, m) := by
  have refused : ∃ e, Grid.allocate granted width height = .error e := by
    unfold Grid.allocate
    by_cases zero : width = 0 ∨ height = 0
    · exact ⟨_, if_pos zero⟩
    · have denied : ¬ granted = true := fun granted =>
        h ⟨fun eq => zero (.inl eq), fun eq => zero (.inr eq), granted⟩
      exact ⟨_, by rw [if_neg zero, if_neg denied]⟩
  obtain ⟨e, refused⟩ := refused
  exact ⟨e, by rw [reallocate, refused]⟩

/-- A map of its own is allocated in the map without cells. -/
theorem allocate_eq (granted : Bool) (width height : UInt32) :
    Map.empty.reallocate granted width height
      = match allocate granted width height with
        | .ok m => (.ok (), m)
        | .error e => (.error e, .empty) := by
  unfold reallocate allocate
  cases Grid.allocate granted width height with
  | ok grid => rfl
  | error e => rfl

/-- A grid for a size class is what a granted request brings. -/
theorem resize_eq (size : SizeClass) (m : Map) :
    m.reallocate true size.dimension size.dimension = (.ok (), m.resize size) :=
  reallocate_of_allocates (by cases size <;> decide) m

/-! ### What a history has written -/

/-- The dimensions of the grid that an operation allocates, if it does. -/
def Op.allocated? : Op → Option (UInt32 × UInt32)
  | create width height granted =>
    if Allocates granted width height then some (width, height) else none
  | resize size granted =>
    if Allocates granted size.dimension size.dimension then some (size.dimension, size.dimension)
    else none
  | _ => none

/-- The terrain that an operation writes to a cell, if it does. -/
def Op.terrain? (col row : UInt32) : Op → Option Terrain
  | setTerrain c r terrain => if col = c ∧ row = r then some terrain else none
  | _ => none

/-- The height that an operation writes to a cell, if it does. -/
def Op.height? (col row : UInt32) : Op → Option UInt8
  | setHeight c r height =>
    if col = c ∧ row = r then some (Grid.capped height) else none
  | _ => none

/-- The dimensions of the last grid that was allocated. -/
def dimensions (ops : List Op) : UInt32 × UInt32 :=
  (ops.reverse.findSome? Op.allocated?).getD (0, 0)

/-- The operations since the last grid was allocated, the latest first. -/
def recent (ops : List Op) : List Op :=
  ops.reverse.takeWhile fun op => op.allocated?.isNone

/-- The terrain last written to a cell of the present grid; grass if none was. -/
def lastTerrain (ops : List Op) (col row : UInt32) : Terrain :=
  ((recent ops).findSome? (Op.terrain? col row)).getD .grass

/-- The height last written to a cell of the present grid; zero if none was. -/
def lastHeight (ops : List Op) (col row : UInt32) : UInt8 :=
  ((recent ops).findSome? (Op.height? col row)).getD 0

section history

theorem dimensions_concat_of_some {size : UInt32 × UInt32} (h : op.allocated? = some size) :
    dimensions (ops ++ [op]) = size := by
  rw [dimensions, List.reverse_append, List.reverse_singleton, List.singleton_append,
    List.findSome?_cons_of_isSome (by rw [h]; rfl), h]
  rfl

theorem dimensions_concat_of_none (h : op.allocated? = none) :
    dimensions (ops ++ [op]) = dimensions ops := by
  rw [dimensions, List.reverse_append, List.reverse_singleton, List.singleton_append,
    List.findSome?_cons_of_isNone (by rw [h]; rfl)]
  rfl

theorem recent_concat_of_some {size : UInt32 × UInt32} (h : op.allocated? = some size) :
    recent (ops ++ [op]) = [] := by
  rw [recent, List.reverse_append, List.reverse_singleton, List.singleton_append,
    List.takeWhile_cons_of_neg (by rw [h]; exact Bool.noConfusion)]

theorem recent_concat_of_none (h : op.allocated? = none) :
    recent (ops ++ [op]) = op :: recent ops := by
  rw [recent, List.reverse_append, List.reverse_singleton, List.singleton_append,
    List.takeWhile_cons_of_pos (by rw [h]; rfl)]
  rfl

/-- An operation that allocates nothing leaves its own writes behind, and the earlier ones. -/
theorem lastTerrain_concat_of_none (h : op.allocated? = none) (col row : UInt32) :
    lastTerrain (ops ++ [op]) col row = (op.terrain? col row).getD (lastTerrain ops col row) := by
  rw [lastTerrain, recent_concat_of_none h, List.findSome?_cons]
  cases op.terrain? col row <;> rfl

theorem lastHeight_concat_of_none (h : op.allocated? = none) (col row : UInt32) :
    lastHeight (ops ++ [op]) col row = (op.height? col row).getD (lastHeight ops col row) := by
  rw [lastHeight, recent_concat_of_none h, List.findSome?_cons]
  cases op.height? col row <;> rfl

end history

/-! ### Maps that hold what was written -/

/-- A map that holds what its history has written: the grid is the last one allocated, and each of
its cells holds what was written to it since. -/
structure Records (m : Map) (ops : List Op) : Prop where
  width_eq : m.grid.width = (dimensions ops).1
  height_eq : m.grid.height = (dimensions ops).2
  terrainAt?_eq : ∀ col row, m.grid.terrainAt? col row
    = if col < m.grid.width ∧ row < m.grid.height then some (lastTerrain ops col row) else none
  heightAt?_eq : ∀ col row, m.grid.heightAt? col row
    = if col < m.grid.width ∧ row < m.grid.height then some (lastHeight ops col row) else none

/-- A map with a blank grid, after the operation that has allocated it. -/
theorem records_of_blank {size : UInt32 × UInt32} {view : Viewport}
    (dimensions_eq : dimensions ops = size) (recent_eq : recent ops = []) :
    (⟨.blank size.1 size.2, view⟩ : Map).Records ops where
  width_eq := by rw [dimensions_eq]; rfl
  height_eq := by rw [dimensions_eq]; rfl
  terrainAt?_eq col row := by
    rw [lastTerrain, recent_eq]
    exact Grid.lookup?_replicate Terrain.grass
  heightAt?_eq col row := by
    rw [lastHeight, recent_eq]
    exact Grid.lookup?_replicate 0

/-- The map without cells, before any operation. -/
theorem records_empty : Map.empty.Records [] := by
  have size : dimensions [] = (0, 0) := rfl
  exact records_of_blank size rfl

/-! ### What an operation may change -/

/-- Two maps that differ in their terrain only, and there in one cell at most. -/
structure SameButTerrain (col row : UInt32) (m m' : Map) : Prop where
  view : m'.view = m.view
  sameSize : m.grid.SameSize m'.grid
  heights : m'.grid.heights = m.grid.heights
  elsewhere : ∀ c r, ¬ (c = col ∧ r = row) → m'.grid.terrainAt? c r = m.grid.terrainAt? c r

/-- Two maps that differ in their heights only, and there in one cell at most. -/
structure SameButHeight (col row : UInt32) (m m' : Map) : Prop where
  view : m'.view = m.view
  sameSize : m.grid.SameSize m'.grid
  terrain : m'.grid.terrain = m.grid.terrain
  elsewhere : ∀ c r, ¬ (c = col ∧ r = row) → m'.grid.heightAt? c r = m.grid.heightAt? c r

/-- What an operation on a map may reply and leave behind. -/
def Op.Complies (m : Map) : Op → Reply × Map → Prop
  | create width height granted, (reply, m') =>
    if Allocates granted width height then
      reply = .allocated (.ok ()) ∧ m' = ⟨.blank width height, .closed⟩
    else (∃ e, reply = .allocated (.error e)) ∧ m' = m
  | resize size granted, (reply, m') =>
    if Allocates granted size.dimension size.dimension then
      reply = .allocated (.ok ()) ∧ m'.grid = .blank size.dimension size.dimension ∧
        m'.view = m.view
    else (∃ e, reply = .allocated (.error e)) ∧ m' = m
  | setTerrain col row _, (reply, m') =>
    if col < m.grid.width ∧ row < m.grid.height then
      reply = .written true ∧ SameButTerrain col row m m'
    else reply = .written false ∧ m' = m
  | setHeight col row _, (reply, m') =>
    if col < m.grid.width ∧ row < m.grid.height then
      reply = .written true ∧ SameButHeight col row m m'
    else reply = .written false ∧ m' = m
  | reshape _ _ _ _, (reply, m') => reply = .done ∧ m'.grid = m.grid

section perform

variable {granted : Bool} {width height : UInt32} {size : SizeClass}

theorem perform_create_of_allocates (h : Allocates granted width height) (m : Map) :
    (Op.create width height granted).perform m
      = (.allocated (.ok ()), ⟨.blank width height, .closed⟩) := by
  rw [Op.perform, reallocate_of_allocates h]
  rfl

theorem exists_perform_create (h : ¬ Allocates granted width height) (m : Map) :
    ∃ e, (Op.create width height granted).perform m = (.allocated (.error e), m) := by
  obtain ⟨e, refused⟩ := exists_reallocate_of_not_allocates h .empty
  exact ⟨e, by rw [Op.perform, refused]⟩

theorem perform_resize_of_allocates (h : Allocates granted size.dimension size.dimension)
    (m : Map) : (Op.resize size granted).perform m
      = (.allocated (.ok ()), { m with grid := .blank size.dimension size.dimension }) := by
  rw [Op.perform, reallocate_of_allocates h]

theorem exists_perform_resize (h : ¬ Allocates granted size.dimension size.dimension) (m : Map) :
    ∃ e, (Op.resize size granted).perform m = (.allocated (.error e), m) := by
  obtain ⟨e, refused⟩ := exists_reallocate_of_not_allocates h m
  exact ⟨e, by rw [Op.perform, refused]⟩

/-- A cell inside the grid is given a terrain. -/
theorem exists_perform_setTerrain (inside : col < m.grid.width ∧ row < m.grid.height)
    (terrain : Terrain) : ∃ grid, (Op.setTerrain col row terrain).perform m
        = (.written true, { m with grid }) ∧
      m.grid.SameSize grid ∧ grid.heights = m.grid.heights ∧
      ∀ c r, grid.terrainAt? c r
        = if c = col ∧ r = row then some terrain else m.grid.terrainAt? c r := by
  obtain ⟨i, place⟩ := Grid.exists_index? inside
  refine ⟨m.grid.writeTerrain i terrain, ?_, ⟨rfl, rfl⟩, rfl, ?_⟩
  · rw [Op.perform, Grid.setTerrain?, place]
    rfl
  · exact Grid.lookup?_setIfInBounds place m.grid.terrain_size terrain

/-- A cell inside the grid is given a height, cut off at the greatest one. -/
theorem exists_perform_setHeight (inside : col < m.grid.width ∧ row < m.grid.height)
    (height : UInt8) : ∃ grid, (Op.setHeight col row height).perform m
        = (.written true, { m with grid }) ∧
      m.grid.SameSize grid ∧ grid.terrain = m.grid.terrain ∧
      ∀ c r, grid.heightAt? c r
        = if c = col ∧ r = row then some (Grid.capped height) else m.grid.heightAt? c r := by
  obtain ⟨i, place⟩ := Grid.exists_index? inside
  refine ⟨m.grid.writeHeight i (Grid.capped height), ?_, ⟨rfl, rfl⟩, rfl, ?_⟩
  · rw [Op.perform, Grid.setHeight?, place]
    rfl
  · exact Grid.lookup?_setIfInBounds place m.grid.heights_size _

theorem perform_setTerrain_of_outside (outside : ¬ (col < m.grid.width ∧ row < m.grid.height))
    (terrain : Terrain) : (Op.setTerrain col row terrain).perform m = (.written false, m) := by
  rw [Op.perform, Grid.setTerrain?, Grid.index?, if_neg outside]
  rfl

theorem perform_setHeight_of_outside (outside : ¬ (col < m.grid.width ∧ row < m.grid.height))
    (height : UInt8) : (Op.setHeight col row height).perform m = (.written false, m) := by
  rw [Op.perform, Grid.setHeight?, Grid.index?, if_neg outside]
  rfl

end perform

/-- Every operation does what it may, on every map. -/
theorem Op.complies_perform (op : Op) (m : Map) : op.Complies m (op.perform m) := by
  cases op with
  | create width height granted =>
    by_cases h : Allocates granted width height
    case pos =>
      rw [perform_create_of_allocates h, Complies, if_pos h]
      exact ⟨rfl, rfl⟩
    case neg =>
      obtain ⟨e, eq⟩ := exists_perform_create h m
      rw [eq, Complies, if_neg h]
      exact ⟨⟨e, rfl⟩, rfl⟩
  | resize size granted =>
    by_cases h : Allocates granted size.dimension size.dimension
    case pos =>
      rw [perform_resize_of_allocates h, Complies, if_pos h]
      exact ⟨rfl, rfl, rfl⟩
    case neg =>
      obtain ⟨e, eq⟩ := exists_perform_resize h m
      rw [eq, Complies, if_neg h]
      exact ⟨⟨e, rfl⟩, rfl⟩
  | setTerrain col row terrain =>
    by_cases inside : col < m.grid.width ∧ row < m.grid.height
    case pos =>
      obtain ⟨grid, eq, sameSize, heights, read⟩ := exists_perform_setTerrain inside terrain
      rw [eq, Complies, if_pos inside]
      exact ⟨rfl, rfl, sameSize, heights, fun c r other => (read c r).trans (if_neg other)⟩
    case neg =>
      rw [perform_setTerrain_of_outside inside, Complies, if_neg inside]
      exact ⟨rfl, rfl⟩
  | setHeight col row height =>
    by_cases inside : col < m.grid.width ∧ row < m.grid.height
    case pos =>
      obtain ⟨grid, eq, sameSize, terrain, read⟩ := exists_perform_setHeight inside height
      rw [eq, Complies, if_pos inside]
      exact ⟨rfl, rfl, sameSize, terrain, fun c r other => (read c r).trans (if_neg other)⟩
    case neg =>
      rw [perform_setHeight_of_outside inside, Complies, if_neg inside]
      exact ⟨rfl, rfl⟩
  | reshape x y w h => exact ⟨rfl, rfl⟩

/-! ### Runs -/

/-- An operation that allocates nothing, and writes to the cells of the grid what it says. -/
theorem Records.concat {m' : Map} (h : m.Records ops) (none : op.allocated? = .none)
    (sameSize : m.grid.SameSize m'.grid)
    (terrain : ∀ col row, col < m.grid.width ∧ row < m.grid.height →
      m'.grid.terrainAt? col row = (op.terrain? col row).or (m.grid.terrainAt? col row))
    (heights : ∀ col row, col < m.grid.width ∧ row < m.grid.height →
      m'.grid.heightAt? col row = (op.height? col row).or (m.grid.heightAt? col row)) :
    m'.Records (ops ++ [op]) where
  width_eq := by rw [sameSize.1, h.width_eq, dimensions_concat_of_none none]
  height_eq := by rw [sameSize.2, h.height_eq, dimensions_concat_of_none none]
  terrainAt?_eq col row := by
    split
    case isTrue inside =>
      rw [sameSize.1, sameSize.2] at inside
      rw [terrain col row inside, h.terrainAt?_eq, if_pos inside, lastTerrain_concat_of_none none]
      cases op.terrain? col row <;> rfl
    case isFalse outside => rw [Grid.terrainAt?, Grid.index?, if_neg outside, Option.bind_none]
  heightAt?_eq col row := by
    split
    case isTrue inside =>
      rw [sameSize.1, sameSize.2] at inside
      rw [heights col row inside, h.heightAt?_eq, if_pos inside, lastHeight_concat_of_none none]
      cases op.height? col row <;> rfl
    case isFalse outside => rw [Grid.heightAt?, Grid.index?, if_neg outside, Option.bind_none]

/-- What a map holds after one more operation. -/
theorem Records.perform (h : m.Records ops) (op : Op) :
    (op.perform m).2.Records (ops ++ [op]) := by
  cases op with
  | create width height granted =>
    by_cases allocates : Allocates granted width height
    case pos =>
      have size : (Op.create width height granted).allocated? = some (width, height) :=
        if_pos allocates
      rw [perform_create_of_allocates allocates]
      exact records_of_blank (dimensions_concat_of_some size) (recent_concat_of_some size)
    case neg =>
      obtain ⟨e, eq⟩ := exists_perform_create allocates m
      rw [eq]
      exact h.concat (if_neg allocates) ⟨rfl, rfl⟩ (fun _ _ _ => rfl) (fun _ _ _ => rfl)
  | resize size granted =>
    by_cases allocates : Allocates granted size.dimension size.dimension
    case pos =>
      have dimensions : (Op.resize size granted).allocated?
          = some (size.dimension, size.dimension) := if_pos allocates
      rw [perform_resize_of_allocates allocates]
      exact records_of_blank (dimensions_concat_of_some dimensions)
        (recent_concat_of_some dimensions)
    case neg =>
      obtain ⟨e, eq⟩ := exists_perform_resize allocates m
      rw [eq]
      exact h.concat (if_neg allocates) ⟨rfl, rfl⟩ (fun _ _ _ => rfl) (fun _ _ _ => rfl)
  | setTerrain col row terrain =>
    by_cases inside : col < m.grid.width ∧ row < m.grid.height
    case pos =>
      obtain ⟨grid, eq, sameSize, heights, read⟩ := exists_perform_setTerrain inside terrain
      rw [eq]
      refine h.concat rfl sameSize (fun c r _ => ?_) fun c r _ => ?_
      · rw [read, Op.terrain?]
        split <;> rfl
      · rw [Grid.heightAt?_eq_lookup?, heights]
        exact Grid.lookup?_congr sameSize _ c r
    case neg =>
      rw [perform_setTerrain_of_outside inside]
      refine h.concat rfl ⟨rfl, rfl⟩ (fun c r here => ?_) (fun _ _ _ => rfl)
      have other : ¬ (c = col ∧ r = row) := by
        rintro ⟨rfl, rfl⟩
        exact inside here
      rw [Op.terrain?, if_neg other, Option.none_or]
  | setHeight col row height =>
    by_cases inside : col < m.grid.width ∧ row < m.grid.height
    case pos =>
      obtain ⟨grid, eq, sameSize, terrain, read⟩ := exists_perform_setHeight inside height
      rw [eq]
      refine h.concat rfl sameSize (fun c r _ => ?_) fun c r _ => ?_
      · rw [Grid.terrainAt?_eq_lookup?, terrain]
        exact Grid.lookup?_congr sameSize _ c r
      · rw [read, Op.height?]
        split <;> rfl
    case neg =>
      rw [perform_setHeight_of_outside inside]
      refine h.concat rfl ⟨rfl, rfl⟩ (fun _ _ _ => rfl) (fun c r here => ?_)
      have other : ¬ (c = col ∧ r = row) := by
        rintro ⟨rfl, rfl⟩
        exact inside here
      rw [Op.height?, if_neg other, Option.none_or]
  | reshape x y w h' =>
    exact h.concat rfl ⟨rfl, rfl⟩ (fun _ _ _ => rfl) (fun _ _ _ => rfl)

/-- A run keeps what a map holds in step with the history. -/
theorem Records.foldl (h : m.Records ops) (later : List Op) :
    (later.foldl (fun m op => (op.perform m).2) m).Records (ops ++ later) := by
  induction later generalizing m ops with
  | nil => rwa [List.append_nil]
  | cons op later ih =>
    rw [List.append_cons]
    exact ih (h.perform op)

/-- Every run leaves a map that holds what was written. -/
theorem records_run (ops : List Op) : (run ops).Records ops := records_empty.foldl ops

/-- **The grid is a faithful store.**  After every run both buffers hold one value for each cell,
each cell holds what was last written to it since the grid was allocated, a request for another grid
that fails leaves the map as it is, and so does every operation but for what it is about. -/
theorem faithful_run (ops : List Op) :
    (run ops).Records ops ∧
      (run ops).grid.terrain.size = (dimensions ops).1.toNat * (dimensions ops).2.toNat ∧
      (run ops).grid.heights.size = (dimensions ops).1.toNat * (dimensions ops).2.toNat ∧
      (∀ granted width height, ¬ Allocates granted width height →
        ∃ e, (run ops).reallocate granted width height = (.error e, run ops)) ∧
      ∀ op : Op, op.Complies (run ops) (op.perform (run ops)) := by
  have records := records_run ops
  refine ⟨records, ?_, ?_, fun _ _ _ h => exists_reallocate_of_not_allocates h _,
    fun op => op.complies_perform _⟩
  · rw [Grid.terrain_size, records.width_eq, records.height_eq]
  · rw [Grid.heights_size, records.width_eq, records.height_eq]

end Map

end Skirmish
