import Skirmish.Entity.Codec
import Skirmish.Geometry.Codec
import Skirmish.Proofs.Settings.Loading

/-!
# Saved settings are loaded

Settings are loaded from the file that they were saved to, whatever stood in it before, and every
kind of value that has a text is read back from its text.

## Main results

* `codec_isLawful` of `Point`, `Box`, `EntityId`, `Resource`, `Building`, `SizeClass` and
  `Settings` — values are printed, and read back from what is printed of them.
* `Settings.load_save_and_read_write` — saved settings are loaded, written values are read.
-/

namespace Skirmish

open Json (Codec Piece Reader Value)

/-! ### Numbers and names -/

theorem Json.Codec.coordinate_isLawful : Codec.coordinate.IsLawful :=
  Codec.isLawful_integer (by decide) (by decide) Coord.inRange_toInt Int32.ofInt_toInt

theorem Json.Codec.word_isLawful : Codec.word.IsLawful := by
  refine Codec.isLawful_integer (by decide) (by decide) (fun n => ?_) fun n => UInt32.ofNat_toNat
  have lt := n.toNat_lt
  exact ⟨Int.natCast_nonneg _, Int.lt_add_one_iff.mp (Int.ofNat_lt.mpr lt)⟩

theorem SizeClass.codec_isLawful : SizeClass.codec.IsLawful := by
  refine Codec.isLawful_variant (fun c => ?_) fun c c' => ?_
  · cases c <;> decide
  · cases c <;> cases c' <;> decide

theorem Resource.codec_isLawful : Resource.codec.IsLawful := by
  refine Codec.isLawful_variant (fun c => ?_) fun c c' => ?_
  · cases c <;> decide
  · cases c <;> cases c' <;> decide

theorem Building.codec_isLawful : Building.codec.IsLawful := by
  refine Codec.isLawful_variant (fun c => ?_) fun c c' => ?_
  · cases c <;> decide
  · cases c <;> cases c' <;> decide

theorem EntityId.codec_isLawful : EntityId.codec.IsLawful where
  printable id := Codec.word_isLawful.printable id.number
  answers id := (Codec.word_isLawful.answers id.number).map EntityId.mk

/-! ### Points and boxes -/

theorem Point.codec_isLawful : Point.codec.IsLawful where
  printable p :=
    ⟨Codec.coordinate_isLawful.printable p.x, Codec.coordinate_isLawful.printable p.y, trivial⟩
  answers _ :=
    Codec.answers_twoFields Codec.coordinate_isLawful (r := shape) rfl (by decide) rfl rfl rfl

theorem Box.codec_isLawful : Box.codec.IsLawful where
  printable b :=
    ⟨Point.codec_isLawful.printable b.center, Point.codec_isLawful.printable b.half, trivial⟩
  answers _ := Codec.answers_twoFields Point.codec_isLawful (r := shape) rfl (by decide) rfl rfl rfl

/-! ### Settings -/

namespace Settings

/-- All topics, in the order in which they are saved. -/
def Topic.all : List Topic :=
  [.mapSize, .seed, .villagers, .resources, .houses, .quadtreeCapacity, .viewport, .frames]

/-- The members that settings are printed as. -/
def members (s : Settings) : List (List Piece × Json.Tree) :=
  Value.members
    [("map_size", SizeClass.codec.encode s.mapSize),
      ("seed", counter.encode s.seed),
      ("villagers", amount.encode s.villagers),
      ("resources", amount.encode s.resources),
      ("houses", amount.encode s.houses),
      ("quadtree_capacity", amount.encode s.quadtreeCapacity),
      ("viewport", extents.encode s.viewport),
      ("frames", counter.encode s.frames)]

/-- What is printed of settings tells of all topics. -/
theorem given_members (s : Settings) :
    Given s.members (Topic.all.map fun topic => (topic, s.about topic)) := by
  have named (key : String) := Piece.decode_map_ofChar key.toList
  exact .known (named _) (.size (named _)) <| .known (named _) (.number _) <|
    .known (named _) (.number _) <| .known (named _) (.number _) <| .known (named _) (.number _) <|
    .known (named _) (.number _) <| .known (named _) (.extents _ _) <|
    .known (named _) (.number _) .nil

/-- What is printed of settings is taken into a draft of them. -/
theorem exists_fold_members (s : Settings) :
    ∃ d, s.members.foldlM shape.take shape.blank = some d ∧ d.toSettings = s := by
  have once : ((Topic.all.map fun topic => (topic, s.about topic)).map Prod.fst).Nodup :=
    show Topic.all.Nodup by decide
  obtain ⟨d, fold⟩ := s.given_members.exists_fold (d := shape.blank)
    (fun g _ => about_blank g.1) once (List.forall_mem_map.mpr fun topic _ => s.admits_about topic)
  obtain ⟨-, -, -, about⟩ := s.given_members.of_fold fold
  refine ⟨d, fold, ext_about fun topic => ?_⟩
  rw [about_toSettings, about]
  cases topic <;> rfl

theorem codec_isLawful : codec.IsLawful where
  printable s := by
    have number (n : Int) : (Value.ofInt n).IsPrintable := Json.Numeral.spells_text_ofInt n
    exact ⟨trivial, number _, number _, number _, number _, number _,
      ⟨number _, number _, trivial⟩, number _, trivial⟩
  answers s := by
    have read := Json.RecordShape.answers_readRecord (r := shape) fun m (_ : m ∈ s.members) =>
      wholeOn m.2
    obtain ⟨d, fold, rfl⟩ := s.exists_fold_members
    rw [fold] at read
    exact read

/-- Settings are loaded from the file that they were saved to, whether or not a file was there
before.  What is written of a value on one line is read back: of points, boxes, ids, kinds of
resource and building, size classes, and settings. -/
theorem load_save_and_read_write :
    (∀ (s : Settings) (bytes : ByteArray), (s.save? .absent).map load? = some (.ok s) ∧
      (s.save? (.file bytes)).map load? = some (.ok s)) ∧
    (∀ p, Point.codec.read (Point.codec.write p) = .ok p) ∧
    (∀ b, Box.codec.read (Box.codec.write b) = .ok b) ∧
    (∀ id, EntityId.codec.read (EntityId.codec.write id) = .ok id) ∧
    (∀ r, Resource.codec.read (Resource.codec.write r) = .ok r) ∧
    (∀ b, Building.codec.read (Building.codec.write b) = .ok b) ∧
    (∀ c, SizeClass.codec.read (SizeClass.codec.write c) = .ok c) ∧
    ∀ s, Settings.codec.read (Settings.codec.write s) = .ok s := by
  have saved (s : Settings) : load? (.file s.render.toUTF8) = .ok s := by
    rw [load_file, parse, render, codec_isLawful.read_writePretty]
    rfl
  refine ⟨fun s bytes => ⟨?_, ?_⟩, Point.codec_isLawful.read_write, Box.codec_isLawful.read_write,
    EntityId.codec_isLawful.read_write, Resource.codec_isLawful.read_write,
    Building.codec_isLawful.read_write, SizeClass.codec_isLawful.read_write,
    codec_isLawful.read_write⟩
  · exact congrArg some (saved s)
  · exact congrArg some (saved s)

end Settings

end Skirmish
