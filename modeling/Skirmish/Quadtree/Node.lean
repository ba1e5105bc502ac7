import Skirmish.Entity.GameUnit

/-!
# Nodes of the spatial index

A node has an area and holds entries, units and particles apart.  The ids of the units that can
walk are listed once more, so that they are found without a look at every entry.  The nodes of an
index stand in one row; a split node knows the place of the first of its four quarters, which stand
next to each other.

## Main definitions

* `Entry` — an indexed entity: its id, its box, and whether it can walk.
* `swapRemove?`, `modifyFirst?` — one element of a list taken out, or changed in its place.
* `Node` — a node.
* `Node.push`, `Node.remove?`, `Node.rebox?` — an entry added, taken out, and given another box.
* `Node.hits` — the entries of a node that meet a region.
-/

namespace Skirmish

/-- An indexed entity. -/
structure Entry where
  id : EntityId
  box : Box
  /-- Whether the entity can walk. -/
  mobile : Bool
  deriving DecidableEq, Repr

namespace Entry

/-- The entry of a unit. -/
def ofUnit (u : GameUnit) : Entry := ⟨u.id, u.bounds, u.isMobile⟩

/-- The entry of a particle. -/
def ofParticle (p : Particle) : Entry := ⟨p.id, p.bounds, false⟩

end Entry

/-- A list with the element at an index taken out and the last element put into its place. -/
def swapRemove {α : Type} (l : List α) (i : Nat) : List α :=
  match l.getLast? with
  | some last => l.dropLast.set i last
  | none => []

/-- The first element that satisfies a test, and the list after `swapRemove` of it. -/
def swapRemove? {α : Type} (test : α → Bool) (l : List α) : Option (α × List α) := do
  let i ← l.findIdx? test
  let a ← l[i]?
  some (a, swapRemove l i)

/-- A list with the first element that satisfies a test changed in its place. -/
def modifyFirst? {α : Type} (test : α → Bool) (f : α → α) : List α → Option (List α)
  | [] => none
  | a :: l => if test a then some (f a :: l) else (modifyFirst? test f l).map (a :: ·)

/-- A node of the index. -/
structure Node where
  area : Box
  /-- The level that the node stands on; the root stands on level zero. -/
  level : Nat
  units : List Entry
  particles : List Entry
  /-- The ids of the units that can walk. -/
  walkers : List EntityId
  /-- The place of the first of the four quarters, if the node is split. -/
  firstQuarter : Option Nat
  deriving DecidableEq, Repr

namespace Node

/-- The deepest level that a node may stand on. -/
def maxLevel : Nat := 8

/-- An area with a smaller half-extent is never split. -/
def minHalf : Int32 := 8

/-- A leaf that holds nothing. -/
def leaf (area : Box) (level : Nat) : Node :=
  { area, level, units := [], particles := [], walkers := [], firstQuarter := none }

/-- Empty leaves over the four quarters of an area, in their order. -/
def quarterLeaves (areas : Quad Box) (level : Nat) : Array Node :=
  #[leaf areas.southWest level, leaf areas.southEast level, leaf areas.northWest level,
    leaf areas.northEast level]

def isLeaf (n : Node) : Bool := n.firstQuarter.isNone

/-- The number of entries of both families. -/
def size (n : Node) : Nat := n.units.length + n.particles.length

/-- The entries of one family. -/
def entries (n : Node) : EntityKind → List Entry
  | .unit => n.units
  | .particle => n.particles

/-- The node with other entries of one family. -/
def setEntries (n : Node) (kind : EntityKind) (es : List Entry) : Node :=
  match kind with
  | .unit => { n with units := es }
  | .particle => { n with particles := es }

/-! ### Changes -/

/-- Put an entry behind the others of its family. -/
def push (kind : EntityKind) (e : Entry) (n : Node) : Node :=
  let n := n.setEntries kind (n.entries kind ++ [e])
  if kind = .unit ∧ e.mobile then { n with walkers := n.walkers ++ [e.id] } else n

/-- Take out the entry with an id; the last entry of its family moves into its place. -/
def remove? (kind : EntityKind) (id : EntityId) (n : Node) : Option (Entry × Node) := do
  let (e, es) ← swapRemove? (fun e => decide (e.id = id)) (n.entries kind)
  let n := n.setEntries kind es
  some (e, if e.mobile then { n with walkers := n.walkers.filter fun w => decide (w ≠ id) } else n)

/-- Change the box of the entry with an id in its place, if the node is a leaf that covers the new
box. -/
def rebox? (kind : EntityKind) (id : EntityId) (box : Box) (n : Node) : Option Node :=
  if n.isLeaf ∧ n.area.Covers box then
    (modifyFirst? (fun e => decide (e.id = id)) (fun e => { e with box }) (n.entries kind)).map
      (n.setEntries kind)
  else none

/-- A leaf made into a split node that holds nothing. -/
def branch (firstQuarter : Nat) (n : Node) : Node :=
  { n with units := [], particles := [], walkers := [], firstQuarter := some firstQuarter }

/-- Whether a node is of a kind that may be split: a leaf above the deepest level, with an area
that is large enough. -/
def MaySplit (n : Node) : Prop :=
  n.isLeaf ∧ n.level < maxLevel ∧ minHalf ≤ n.area.half.x ∧ minHalf ≤ n.area.half.y

instance (n : Node) : Decidable n.MaySplit :=
  inferInstanceAs (Decidable (_ ∧ _))

/-! ### Questions -/

/-- The entry with an id. -/
def lookup? (n : Node) (kind : EntityKind) (id : EntityId) : Option Entry :=
  (n.entries kind).find? fun e => decide (e.id = id)

/-- The ids of one family whose boxes meet a region, in their order. -/
def hits (n : Node) (kind : EntityKind) (region : Box) : List EntityId :=
  ((n.entries kind).filter fun e => decide (e.box.Meets region)).map Entry.id

/-- The places of the four quarters of a split node, the last one first. -/
def quartersDown (n : Node) : List Nat :=
  match n.firstQuarter with
  | some first => [first + 3, first + 2, first + 1, first]
  | none => []

end Node

end Skirmish
