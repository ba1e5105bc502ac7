import Skirmish.Entity.Building
import Skirmish.Entity.Resource
import Skirmish.Json.Codec

/-!
# Ids and kinds of entities as texts
-/

namespace Skirmish

open Json (Codec)

/-- Ids as texts: an id is its bare number. -/
def EntityId.codec : Codec EntityId where
  encode id := Codec.word.encode id.number
  reader := Codec.word.reader.map EntityId.mk

/-- Kinds of resource as texts. -/
def Resource.codec : Codec Resource := .variant Resource.all Resource.name

/-- Kinds of building as texts. -/
def Building.codec : Codec Building := .variant Building.all Building.name

end Skirmish
