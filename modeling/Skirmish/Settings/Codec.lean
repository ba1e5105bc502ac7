import Skirmish.Json.Codec
import Skirmish.Settings.Basic

/-!
# Settings as texts

Settings are a record of eight fields.  Each of them may be left out and then takes its default.
-/

namespace Skirmish

open Json (Codec RecordShape)

/-- Size classes as texts. -/
def SizeClass.codec : Codec SizeClass := .variant SizeClass.all SizeClass.name

namespace Settings

/-- The settings as far as they have been read. -/
structure Draft where
  mapSize : Option SizeClass := none
  seed : Option UInt64 := none
  villagers : Option UInt64 := none
  resources : Option UInt64 := none
  houses : Option UInt64 := none
  quadtreeCapacity : Option UInt64 := none
  viewport : Option (Int32 × Int32) := none
  frames : Option UInt64 := none

/-- The settings of a draft; what it lacks takes its default. -/
def Draft.toSettings (d : Draft) : Settings :=
  let base : Settings := {}
  { mapSize := d.mapSize.getD base.mapSize
    seed := d.seed.getD base.seed
    villagers := d.villagers.getD base.villagers
    resources := d.resources.getD base.resources
    houses := d.houses.getD base.houses
    quadtreeCapacity := d.quadtreeCapacity.getD base.quadtreeCapacity
    viewport := d.viewport.getD base.viewport
    frames := d.frames.getD base.frames }

/-- Counters of 64 bits. -/
def counter : Codec UInt64 := .wide "u64"

/-- Numbers of things. -/
def amount : Codec UInt64 := .wide "usize"

/-- The extents of a viewport. -/
def extents : Codec (Int32 × Int32) := .pair .coordinate .coordinate

/-- Settings are a record of eight optional fields. -/
def shape : RecordShape Draft Settings where
  name := "WorldSettings"
  fields :=
    [SizeClass.codec.field "map_size" true Draft.mapSize fun mapSize d => { d with mapSize },
      counter.field "seed" true Draft.seed fun seed d => { d with seed },
      amount.field "villagers" true Draft.villagers fun villagers d => { d with villagers },
      amount.field "resources" true Draft.resources fun resources d => { d with resources },
      amount.field "houses" true Draft.houses fun houses d => { d with houses },
      amount.field "quadtree_capacity" true Draft.quadtreeCapacity
        fun quadtreeCapacity d => { d with quadtreeCapacity },
      extents.field "viewport" true Draft.viewport fun viewport d => { d with viewport },
      counter.field "frames" true Draft.frames fun frames d => { d with frames }]
  blank := {}
  build d := some d.toSettings

/-- Settings as texts. -/
def codec : Codec Settings where
  encode s := .record
    [("map_size", SizeClass.codec.encode s.mapSize),
      ("seed", counter.encode s.seed),
      ("villagers", amount.encode s.villagers),
      ("resources", amount.encode s.resources),
      ("houses", amount.encode s.houses),
      ("quadtree_capacity", amount.encode s.quadtreeCapacity),
      ("viewport", extents.encode s.viewport),
      ("frames", counter.encode s.frames)]
  reader := Json.readRecord shape

end Settings

end Skirmish
