import Skirmish.Entity.Id

/-!
# Faults

The checked operations of the world stop at the first fault.  A fault is a cause: an arithmetic
result outside the 32-bit range, a broken promise about ids, or a broken link of the index.

## Main definitions

* `Fault` — the causes.
* `Fault.message` — the text that reports a cause.
-/

namespace Skirmish

/-- Why a checked operation stopped. -/
inductive Fault where
  /-- A sum left the range of its words. -/
  | addition
  /-- A difference left the range of its words. -/
  | subtraction
  /-- A product left the range of its words. -/
  | multiplication
  /-- An id was filed in the index while already filed there. -/
  | indexedTwice (id : EntityId)
  /-- The index named a node beyond the last one. -/
  | outOfRange (place count : Nat)
  /-- A directory of the index named a node that does not hold the id. -/
  | outOfStep (id : EntityId)
  /-- A coordinate was to be kept between limits of which the lower one is the greater. -/
  | crossedLimits
  /-- An entity was built under another id than the one it was given. -/
  | foreignId (kind : EntityKind) (built given : EntityId)
  deriving DecidableEq, Repr

/-- How an id is written in a report. -/
def EntityId.report (id : EntityId) : String :=
  "EntityId(" ++ toString id.number.toNat ++ ")"

/-- How a family of entities is called in a report. -/
def EntityKind.report : EntityKind → String
  | .unit => "unit"
  | .particle => "particle"

/-- The report of a fault. -/
def Fault.message : Fault → String
  | .addition => "attempt to add with overflow"
  | .subtraction => "attempt to subtract with overflow"
  | .multiplication => "attempt to multiply with overflow"
  | .indexedTwice id => id.report ++ " indexed twice"
  | .outOfRange place count =>
    "index out of bounds: the len is " ++ toString count ++ " but the index is " ++ toString place
  | .outOfStep id => "location map out of sync for " ++ id.report
  | .crossedLimits => "assertion failed: min <= max"
  | .foreignId kind built given =>
    "assertion `left == right` failed: " ++ kind.report ++ " built with a foreign id\n  left: "
      ++ built.report ++ "\n right: " ++ given.report

end Skirmish
