import Skirmish.Quadtree.Node

/-!
# The spatial index

The index answers which entities meet a region.  Its nodes stand in one row, the root first: each
node covers an area, and a split node is divided into four quarters.  An entry stands in the lowest
node whose area covers its box, so entries that lie across a dividing line stay above it.  Beside
the nodes the index keeps a directory for each family, from ids to the places of their nodes.

## Main definitions

* `Quadtree` — the nodes and the directories.
* `Quadtree.turn`, `Quadtree.seek` — the way down to the node of a box; full leaves on the way are
  split.
* `Quadtree.put`, `Quadtree.erase`, `Quadtree.update` — file, remove, and file under another box.
* `Quadtree.query` — the entities that meet a region, by a `Search` from the root.
* `Quadtree.rebuild` — the same entries in an index without empty nodes.
-/

namespace Skirmish

/-- A spatial index over units and particles. -/
structure Quadtree where
  /-- How many entries a leaf holds before it is split. -/
  capacity : Nat
  /-- The nodes in the order in which they were made, the root first. -/
  nodes : Array Node
  /-- The places of the nodes that hold the units. -/
  unitHomes : EntityId.Table Nat
  /-- The places of the nodes that hold the particles. -/
  particleHomes : EntityId.Table Nat
  rooted : 0 < nodes.size

namespace Quadtree

/-- The capacity of an index for which none is asked. -/
def defaultCapacity : Nat := 8

/-- The index of one empty leaf. -/
def single (area : Box) (capacity : Nat) : Quadtree :=
  { capacity, nodes := #[.leaf area 0], unitHomes := ∅, particleHomes := ∅, rooted := by simp }

/-- The empty index over an area; a leaf holds at least one entry. -/
def empty (area : Box) (capacity : Nat) : Quadtree := single area (max capacity 1)

/-- The root. -/
def root (t : Quadtree) : Node :=
  have := t.rooted
  t.nodes[0]

/-- The area that the index covers. -/
def area (t : Quadtree) : Box := t.root.area

/-- The node at a place. -/
def node (t : Quadtree) (i : Nat) : Except Fault Node :=
  match t.nodes[i]? with
  | some n => .ok n
  | none => .error (.outOfRange i t.nodes.size)

/-- The index with the node at a place changed. -/
def modifyNode (t : Quadtree) (i : Nat) (f : Node → Node) : Quadtree :=
  { t with nodes := t.nodes.modify i f, rooted := by simpa using t.rooted }

/-- The directory of one family. -/
def homes (t : Quadtree) : EntityKind → EntityId.Table Nat
  | .unit => t.unitHomes
  | .particle => t.particleHomes

/-- The index with another directory for one family. -/
def setHomes (t : Quadtree) (kind : EntityKind) (homes : EntityId.Table Nat) : Quadtree :=
  match kind with
  | .unit => { t with unitHomes := homes }
  | .particle => { t with particleHomes := homes }

/-- Whether an id is filed. -/
def contains (t : Quadtree) (kind : EntityKind) (id : EntityId) : Bool :=
  (t.homes kind).contains id

/-- The number of ids of one family that are filed. -/
def size (t : Quadtree) (kind : EntityKind) : Nat := (t.homes kind).size

def isEmpty (t : Quadtree) : Bool := t.unitHomes.isEmpty && t.particleHomes.isEmpty

/-! ### Insertion -/

/-- Put an entry into the node at a place and note the place. -/
def shelve (kind : EntityKind) (t : Quadtree) (e : Entry) (i : Nat) : Quadtree :=
  (t.modifyNode i (Node.push kind e)).setHomes kind ((t.homes kind).insert e.id i)

/-- The quarter that covers a box, among the four from a place onward. -/
def quarterFor? (t : Quadtree) (first : Nat) (box : Box) : Except Fault (Option Nat) :=
  [first, first + 1, first + 2, first + 3].findM? fun i => do
    let n ← t.node i
    .ok (decide (n.area.Covers box))

/-- Put an entry of a node that has just been split into the quarter that covers it, or else back
into the node. -/
def settle (kind : EntityKind) (i first : Nat) (t : Quadtree) (e : Entry) :
    Except Fault Quadtree := do
  let quarter ← t.quarterFor? first e.box
  .ok (t.shelve kind e (quarter.getD i))

/-- The index with four empty quarters of the node at a place, which holds nothing any more. -/
def branch (t : Quadtree) (i level : Nat) (areas : Quad Box) : Quadtree :=
  { t with
    nodes := (t.nodes ++ Node.quarterLeaves areas level).modify i (Node.branch t.nodes.size)
    rooted := by simpa using Nat.add_pos_left t.rooted _ }

/-- Split the node at a place, if it can be: its entries go down to the quarters that cover them. -/
def split? (t : Quadtree) (i : Nat) : Except Fault (Option Quadtree) := do
  let n ← t.node i
  if n.MaySplit then
    match ← n.area.quarters? with
    | none => .ok none
    | some areas =>
      let first := t.nodes.size
      let withUnits ← n.units.foldlM (settle .unit i first) (t.branch i (n.level + 1) areas)
      let withAll ← n.particles.foldlM (settle .particle i first) withUnits
      .ok (some withAll)
  else .ok none

/-- What one turn of the way down comes to. -/
inductive Turn where
  /-- The node at hand takes the box. -/
  | arrived
  /-- The node at another place is next. -/
  | descend (place : Nat)
  /-- The node at hand has been split and is looked at again. -/
  | grown (t : Quadtree)

/-- One turn of the way down to the node that takes a box.  From a split node it leads to the
quarter that covers the box, if there is one; a full leaf is split, if it can be. -/
def turn (box : Box) (t : Quadtree) (i : Nat) : Except Fault Turn := do
  let n ← t.node i
  match n.firstQuarter with
  | some first =>
    match ← t.quarterFor? first box with
    | some quarter => .ok (.descend quarter)
    | none => .ok .arrived
  | none =>
    if t.capacity ≤ n.size then
      match ← t.split? i with
      | some t => .ok (.grown t)
      | none => .ok .arrived
    else .ok .arrived

/-- The place of the node that takes a box, after at most so many turns, and the index with the
leaves split that were full. -/
def seek (box : Box) : Nat → Quadtree → Nat → Except Fault (Nat × Quadtree)
  | 0, t, i => .ok (i, t)
  | turns + 1, t, i => do
    match ← t.turn box i with
    | .arrived => .ok (i, t)
    | .descend quarter => seek box turns t quarter
    | .grown t => seek box turns t i

/-- As many turns as any way down takes: a split and a descent on each level, and the arrival. -/
def maxTurns : Nat := 2 * Node.maxLevel + 1

/-- File an entry.  Nothing is filed if the area does not cover its box, and an id that is filed
already is a fault. -/
def put (kind : EntityKind) (e : Entry) (t : Quadtree) : Except Fault (Bool × Quadtree) :=
  if t.area.Covers e.box then
    if t.contains kind e.id then .error (.indexedTwice e.id)
    else do
      let (i, t) ← t.seek e.box maxTurns 0
      .ok (true, t.shelve kind e i)
  else .ok (false, t)

/-! ### Removal and relocation -/

/-- Remove the entry of an id, if there is one.  A directory that names a node without the entry is
a fault. -/
def remove? (kind : EntityKind) (id : EntityId) (t : Quadtree) :
    Except Fault (Option (Entry × Quadtree)) :=
  match (t.homes kind)[id]? with
  | none => .ok none
  | some i => do
    let n ← t.node i
    match n.remove? kind id with
    | none => .error (.outOfStep id)
    | some (e, n) =>
      .ok (some (e, (t.setHomes kind ((t.homes kind).erase id)).modifyNode i fun _ => n))

/-- Remove the entry of an id; the first component says whether there was one. -/
def erase (kind : EntityKind) (id : EntityId) (t : Quadtree) : Except Fault (Bool × Quadtree) := do
  match ← t.remove? kind id with
  | none => .ok (false, t)
  | some (_, t) => .ok (true, t)

/-- File an id under another box.  An entry that stays within the leaf that holds it is changed in
its place; any other one is removed and filed anew.  The first component says whether the id is
filed afterwards. -/
def update (kind : EntityKind) (id : EntityId) (box : Box) (t : Quadtree) :
    Except Fault (Bool × Quadtree) :=
  match (t.homes kind)[id]? with
  | none => .ok (false, t)
  | some i => do
    let n ← t.node i
    match n.rebox? kind id box with
    | some n => .ok (true, t.modifyNode i fun _ => n)
    | none =>
      match ← t.remove? kind id with
      | none => .ok (false, t)
      | some (e, t) => t.put kind { e with box }

/-- The index over the same area with nothing filed. -/
def clear (t : Quadtree) : Quadtree := single t.area t.capacity

/-- The entries of one family, in the order of the ids. -/
def listed (t : Quadtree) (kind : EntityKind) : List Entry :=
  (t.nodes.toList.flatMap fun n => n.entries kind).mergeSort fun a b =>
    decide (a.id.number ≤ b.id.number)

/-- File entries one after the other. -/
def putAll (kind : EntityKind) (es : List Entry) (t : Quadtree) : Except Fault Quadtree :=
  es.foldlM (fun t e => (t.put kind e).map Prod.snd) t

/-- The same entries filed anew in an empty index, units first and each family in the order of the
ids. -/
def rebuild (t : Quadtree) : Except Fault Quadtree := do
  let withUnits ← t.clear.putAll .unit (t.listed .unit)
  withUnits.putAll .particle (t.listed .particle)

/-! ### Search -/

/-- A search on its way. -/
structure Search where
  /-- The places of the nodes that are still to be visited, the next one first. -/
  stack : List Nat
  /-- The ids found so far. -/
  found : List EntityId

/-- Visit the next node, if there is one.  A node whose area does not meet the region is passed
over; else its entries come first, and its quarters are visited next, the last one first. -/
def Search.visit (t : Quadtree) (kind : EntityKind) (region : Box) (s : Search) :
    Except Fault Search :=
  match s.stack with
  | [] => .ok s
  | i :: rest => do
    let n ← t.node i
    if n.area.Meets region then .ok ⟨n.quartersDown ++ rest, s.found ++ n.hits kind region⟩
    else .ok ⟨rest, s.found⟩

/-- So many visits in a row. -/
def Search.visits (t : Quadtree) (kind : EntityKind) (region : Box) :
    Nat → Search → Except Fault Search
  | 0, s => .ok s
  | n + 1, s => do
    let s ← s.visit t kind region
    s.visits t kind region n

/-- The ids of one family whose boxes meet a region, in the order in which the nodes are visited,
behind the ids at hand.  No node is visited twice, so there are no more visits than nodes. -/
def query (t : Quadtree) (kind : EntityKind) (region : Box) (out : List EntityId) :
    Except Fault (List EntityId) :=
  if region.IsEmpty then .ok out
  else (Search.mk [0] out).visits t kind region t.nodes.size |>.map Search.found

/-- The units that can walk, in the order of the ids. -/
def mobileIds (t : Quadtree) : List EntityId :=
  EntityId.sort (t.nodes.toList.flatMap Node.walkers)

/-! ### Diagnostics -/

def nodeCount (t : Quadtree) : Nat := t.nodes.size

/-- The deepest level in use. -/
def depth (t : Quadtree) : Nat := t.nodes.foldl (fun d n => max d n.level) 0

/-- The node that holds a unit. -/
def nodeOf? (t : Quadtree) (id : EntityId) : Except Fault (Option Node) :=
  match t.unitHomes[id]? with
  | none => .ok none
  | some i => (t.node i).map some

/-- The entry filed for an id. -/
def lookup? (t : Quadtree) (kind : EntityKind) (id : EntityId) : Option Entry := do
  let i ← (t.homes kind)[id]?
  let n ← t.nodes[i]?
  n.lookup? kind id

end Quadtree

end Skirmish
