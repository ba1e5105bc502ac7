import Skirmish.Animation

/-!
# Resources

## Main definitions

* `Resource` — the four kinds of resource, with their look and their usual amount.
* `Stock` — what is left at a resource node, and `Stock.harvest`, which takes from it.
-/

namespace Skirmish

/-- A kind of resource. -/
inductive Resource where
  | food
  | wood
  | gold
  | stone
  deriving DecidableEq, Repr, Inhabited

namespace Resource

/-- Every kind of resource, in order. -/
def all : List Resource := [.food, .wood, .gold, .stone]

/-- The name under which a kind is written. -/
def name : Resource → String
  | .food => "Food"
  | .wood => "Wood"
  | .gold => "Gold"
  | .stone => "Stone"

/-- The frame set of a resource node. -/
def frames : Resource → FrameSet
  | .food => .berryBush
  | .wood => .tree
  | .gold => .goldMine
  | .stone => .stoneMine

/-- The amount that a resource node starts with. -/
def startingAmount : Resource → UInt32
  | .food => 150
  | .wood => 40
  | .gold => 400
  | .stone => 250

end Resource

/-- What is left at a resource node. -/
structure Stock where
  kind : Resource
  amount : UInt32
  deriving DecidableEq, Repr

namespace Stock

/-- What a request takes: no more than is left. -/
def taken (s : Stock) (request : UInt32) : UInt32 :=
  if request ≤ s.amount then request else s.amount

/-- Take from a stock. -/
def harvest (s : Stock) (request : UInt32) : Stock :=
  { s with amount := s.amount - s.taken request }

/-- Nothing is lost: what is taken and what is left are together what was there. -/
theorem taken_add_harvest (s : Stock) (request : UInt32) :
    (s.taken request).toNat + (s.harvest request).amount.toNat = s.amount.toNat := by
  have le : s.taken request ≤ s.amount := by
    unfold taken
    split
    · assumption
    · exact UInt32.le_refl _
  rw [harvest, UInt32.toNat_sub_of_le _ _ le]
  have := UInt32.le_iff_toNat_le.mp le
  omega

/-- Whether nothing is left. -/
def isDepleted (s : Stock) : Bool := decide (s.amount = 0)

end Stock

end Skirmish
