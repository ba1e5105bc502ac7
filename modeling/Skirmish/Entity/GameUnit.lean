import Skirmish.Entity.Building
import Skirmish.Entity.Movement
import Skirmish.Entity.Particle
import Skirmish.Entity.Resource

/-!
# Units

A unit is anything that can be damaged: a resource node, a building or a mobile unit.  It has a
particle as its body, hit points, and what its kind adds.

## Main definitions

* `UnitKind`, `GameUnit` — the record, with the presets `villager`, `resource` and `building`.
* `GameUnit.damage`, `GameUnit.heal` — hit points, from zero to the maximum.
* `GameUnit.place`, `GameUnit.order?` — teleporting and ordering to walk.
* `GameUnit.tick` — one tick of simulation.
* `GameUnit.sprites` — what is drawn of a unit.
-/

namespace Skirmish

/-- What tells the kinds of unit apart. -/
inductive UnitKind where
  | resource (stock : Stock)
  | mobile (movement : Movement)
  | building (overlay : Overlay)

/-- Something that can be damaged. -/
structure GameUnit where
  /-- Where the unit stands and what it shows. -/
  body : Particle
  hp : UInt32
  hpMax : UInt32
  kind : UnitKind

namespace GameUnit

/-- A unit in full health. -/
def create (body : Particle) (hp : UInt32) (kind : UnitKind) : GameUnit :=
  { body, hp, hpMax := hp, kind }

/-! ### Presets -/

/-- A mobile unit that stands at a point. -/
def mobile (id : EntityId) (hp : UInt32) (pos : Point) (diameter : UInt32)
    (stand walk : FrameSet) (color : UInt32) (speed : Float32) : GameUnit :=
  create (.create id pos (.ofDiameter diameter) stand color .origin) hp
    (.mobile (.standing pos speed stand walk))

/-- A villager. -/
def villager (id : EntityId) (pos : Point) (color : UInt32) : GameUnit :=
  mobile id 25 pos 14 .villagerStand .villagerWalk color 2

/-- The color of things that belong to no player. -/
def unowned : UInt32 := 8

/-- A resource node with its own look and amount; its one hit point keeps it from counting as
dead. -/
def resourceNode (id : EntityId) (pos : Point) (diameter : UInt32) (frames : FrameSet)
    (stock : Stock) : GameUnit :=
  create (.create id pos (.ofDiameter diameter) frames unowned .origin) 1 (.resource stock)

/-- A resource node of a kind. -/
def resource (id : EntityId) (pos : Point) (kind : Resource) : GameUnit :=
  resourceNode id pos 24 kind.frames ⟨kind, kind.startingAmount⟩

/-- A building of a kind. -/
def building (id : EntityId) (pos : Point) (kind : Building) (color : UInt32) : GameUnit :=
  create (.create id pos kind.footprint kind.frames color .origin) kind.hitPoints
    (.building ⟨kind.overlayFrames, 0⟩)

/-! ### Views -/

def id (u : GameUnit) : EntityId := u.body.id

def pos (u : GameUnit) : Point := u.body.pos

/-- The ground that a unit takes. -/
def bounds (u : GameUnit) : Box := u.body.bounds

/-- Units are told apart by their ids alone. -/
def same (u v : GameUnit) : Bool := u.body.same v.body

def isDead (u : GameUnit) : Bool := decide (u.hp = 0)

/-- Whether a unit can walk. -/
def isMobile (u : GameUnit) : Bool :=
  match u.kind with
  | .mobile _ => true
  | _ => false

/-- The walk of a mobile unit. -/
def movement? (u : GameUnit) : Option Movement :=
  match u.kind with
  | .mobile m => some m
  | _ => none

/-- What is left at a resource node. -/
def stock? (u : GameUnit) : Option Stock :=
  match u.kind with
  | .resource s => some s
  | _ => none

/-! ### Hit points and stock -/

/-- The hit points that damage leaves. -/
def damage (amount : UInt32) (u : GameUnit) : GameUnit :=
  { u with hp := UInt32.ofNat (u.hp.toNat - amount.toNat) }

/-- Whether damage kills a unit that is alive. -/
def diesOf (amount : UInt32) (u : GameUnit) : Bool :=
  !u.isDead && (u.damage amount).isDead

/-- Restore hit points up to the maximum. -/
def heal (amount : UInt32) (u : GameUnit) : GameUnit :=
  { u with hp := UInt32.ofNat (min (u.hp.toNat + amount.toNat) u.hpMax.toNat) }

/-- Take from a resource node: what was taken and the unit afterwards. -/
def harvest? (request : UInt32) (u : GameUnit) : Option (UInt32 × GameUnit) :=
  match u.kind with
  | .resource s => some (s.taken request, { u with kind := .resource (s.harvest request) })
  | _ => none

/-! ### Position and orders -/

/-- Put a unit onto a point; a mobile unit forgets where it was going. -/
def place (pos : Point) (u : GameUnit) : GameUnit :=
  { u with
    body := { u.body with pos }
    kind := match u.kind with
      | .mobile m => .mobile ((m.place pos).retarget pos)
      | k => k }

/-- Put a unit onto a point unless it is there already. -/
def settle (pos : Point) (u : GameUnit) : GameUnit :=
  if pos = u.pos then u else u.place pos

/-- Order a unit to walk and displace its sprite; units that cannot walk refuse. -/
def order? (target shift : Point) (u : GameUnit) : Option GameUnit :=
  match u.kind with
  | .mobile m =>
    some { u with body := { u.body with shift }, kind := .mobile (m.retarget target) }
  | _ => none

/-- Change the speed of a mobile unit. -/
def setSpeed (speed : Float32) (u : GameUnit) : GameUnit :=
  match u.kind with
  | .mobile m => { u with kind := .mobile { m with speed } }
  | _ => u

/-! ### Ticks -/

/-- One tick: a mobile unit that has somewhere to go, or was walking, takes a step and shows its
gait.  The second component says whether the position changed. -/
def tick (u : GameUnit) : Except Fault (GameUnit × Bool) :=
  match u.kind with
  | .mobile m =>
    if m.target = u.pos ∧ !m.isMoving then .ok (u, false)
    else do
      -- on the tick of arrival the unit moves and already shows its standing frames
      let m := m.step
      let body ← { u.body with pos := m.position }.animate m.gait
      .ok ({ u with body, kind := .mobile m }, decide (m.position ≠ u.pos))
  | _ => .ok (u, false)

/-- Show the next frame of a building's overlay; the second component says whether there is one. -/
def advanceOverlay (u : GameUnit) : Except Fault (GameUnit × Bool) :=
  match u.kind with
  | .building o => do
    let o ← o.advance
    .ok ({ u with kind := .building o }, true)
  | _ => .ok (u, false)

/-! ### Drawing -/

/-- Remember the box on the screen for a viewport. -/
def project (v : Viewport) (u : GameUnit) : GameUnit :=
  { u with body := u.body.project v }

@[simp] theorem id_project (v : Viewport) (u : GameUnit) : (u.project v).id = u.id := rfl

@[simp] theorem bounds_project (v : Viewport) (u : GameUnit) : (u.project v).bounds = u.bounds := rfl

/-- The sprites of a unit: its own, and for a building the overlay right after it. -/
def sprites (v : Viewport) (u : GameUnit) : List Sprite :=
  let base := u.body.sprite v
  match u.kind with
  | .building o =>
    [base, { base with animation := o.frames.id, frame := o.frame, layer := .overlay }]
  | _ => [base]

/-- The selection marker around a unit. -/
def marker (v : Viewport) (u : GameUnit) : EntityId × Box := (u.id, u.body.screenBox v)

end GameUnit

end Skirmish
