import Skirmish.Coord
import Skirmish.Proofs.Json.Reading
import Skirmish.Settings.Storage

/-!
# Loading settings

A settings file is a record whose members may stand in any order, with other members of any kind
between them.  What it says of a topic is what is loaded, and of the topics that it does not mention
the defaults are loaded.  How the text is laid out, and how its keys and texts are spelled, does not
matter.

## Main definitions

* `Settings.Topic`, `Settings.Content` — what settings are about, and what can be said of it.
* `Settings.Topic.Admits` — the contents that a topic can have.
* `Settings.Given` — the contents that the members of a record give.

## Main results

* `Settings.take_of_known`, `Settings.take_of_unknown` — one member of a settings file.
* `Settings.Given.exists_fold`, `Settings.Given.of_fold` — all members of a settings file.
* `Settings.load_of_layout` — which settings are loaded from a text.
-/

namespace Skirmish.Settings

open Json (Codec IntegerType Layout Piece Reader Tree)

/-! ### Topics -/

/-- What settings are about. -/
inductive Topic where
  | mapSize
  | seed
  | villagers
  | resources
  | houses
  | quadtreeCapacity
  | viewport
  | frames
  deriving DecidableEq, Repr

/-- What can be said of a topic. -/
inductive Content where
  | size (c : SizeClass)
  | number (n : Int)
  | extents (width height : Int)
  deriving DecidableEq, Repr

namespace Topic

/-- The key under which a topic is found. -/
def key : Topic → String
  | mapSize => "map_size"
  | seed => "seed"
  | villagers => "villagers"
  | resources => "resources"
  | houses => "houses"
  | quadtreeCapacity => "quadtree_capacity"
  | viewport => "viewport"
  | frames => "frames"

/-- What holds of a topic that is not mentioned. -/
def fallback : Topic → Content
  | mapSize => .size .tiny
  | seed => .number 1
  | villagers => .number 3
  | resources => .number 40
  | houses => .number 2
  | quadtreeCapacity => .number 8
  | viewport => .extents 1024 768
  | frames => .number 600

/-- The contents that a topic can have: counts and seeds are words of 64 bits, extents are words of
32 bits with a sign. -/
def Admits : Topic → Content → Prop
  | mapSize, .size _ => True
  | viewport, .extents width height => Coord.InRange width ∧ Coord.InRange height
  | mapSize, _ | viewport, _ => False
  | _, .number n => 0 ≤ n ∧ n ≤ 18446744073709551615
  | _, _ => False

end Topic

/-- What settings say of a topic. -/
def about (s : Settings) : Topic → Content
  | .mapSize => .size s.mapSize
  | .seed => .number s.seed.toNat
  | .villagers => .number s.villagers.toNat
  | .resources => .number s.resources.toNat
  | .houses => .number s.houses.toNat
  | .quadtreeCapacity => .number s.quadtreeCapacity.toNat
  | .viewport => .extents s.viewport.1.toInt s.viewport.2.toInt
  | .frames => .number s.frames.toNat

/-- Settings are known by what they say of the topics. -/
theorem ext_about {s s' : Settings} (h : ∀ topic, s.about topic = s'.about topic) : s = s' := by
  have word {n n' : UInt64} (h : Content.number n.toNat = .number n'.toNat) : n = n' :=
    UInt64.toNat_inj.mp (Int.ofNat.inj (Content.number.inj h))
  have mapSize : s.mapSize = s'.mapSize := Content.size.inj (h .mapSize)
  have viewport : s.viewport = s'.viewport := by
    obtain ⟨width, height⟩ := Content.extents.inj (h .viewport)
    exact Prod.ext (Int32.toInt_inj.mp width) (Int32.toInt_inj.mp height)
  calc s = ⟨s.mapSize, s.seed, s.villagers, s.resources, s.houses, s.quadtreeCapacity, s.viewport,
        s.frames⟩ := rfl
    _ = s' := by
      rw [mapSize, word (h .seed), word (h .villagers), word (h .resources), word (h .houses),
        word (h .quadtreeCapacity), viewport, word (h .frames)]

/-- What settings say of a topic is what it can have. -/
theorem admits_about (s : Settings) (topic : Topic) : topic.Admits (s.about topic) := by
  have word (n : UInt64) : (0 : Int) ≤ n.toNat ∧ (n.toNat : Int) ≤ 18446744073709551615 := by
    have lt := n.toNat_lt
    omega
  cases topic with
  | mapSize => trivial
  | viewport => exact ⟨Coord.inRange_toInt _, Coord.inRange_toInt _⟩
  | _ => exact word _

/-! ### Members -/

/-- The trees that say a content: a size class by its name, integers by their decimal digits. -/
inductive Content.Written : Content → Tree → Prop
  | size {c : SizeClass} {pieces : List Piece} :
    Piece.decode pieces = some c.name.toList → Written (.size c) (.text pieces)
  | number (n : Int) : Written (.number n) (.number (.ofInt n))
  | extents (width height : Int) :
    Written (.extents width height) (.list [.number (.ofInt width), .number (.ofInt height)])

/-- The contents that the members of a record give, in their order; what stands under other keys may
be anything. -/
inductive Given : List (List Piece × Tree) → List (Topic × Content) → Prop
  | nil : Given [] []
  | known {key : List Piece} {t : Tree} {ms : List (List Piece × Tree)}
    {given : List (Topic × Content)} {topic : Topic} {content : Content} :
    Piece.decode key = some topic.key.toList → content.Written t → Given ms given →
    Given ((key, t) :: ms) ((topic, content) :: given)
  | unknown {key : List Piece} {name : List Char} {t : Tree} {ms : List (List Piece × Tree)}
    {given : List (Topic × Content)} : Piece.decode key = some name →
    (∀ topic : Topic, topic.key.toList ≠ name) → Given ms given → Given ((key, t) :: ms) given

/-! ### Drafts -/

/-- What has been read about a topic. -/
def Draft.about (d : Draft) : Topic → Option Content
  | .mapSize => d.mapSize.map .size
  | .seed => d.seed.map fun n => .number n.toNat
  | .villagers => d.villagers.map fun n => .number n.toNat
  | .resources => d.resources.map fun n => .number n.toNat
  | .houses => d.houses.map fun n => .number n.toNat
  | .quadtreeCapacity => d.quadtreeCapacity.map fun n => .number n.toNat
  | .viewport => d.viewport.map fun v => .extents v.1.toInt v.2.toInt
  | .frames => d.frames.map fun n => .number n.toNat

/-- A draft in which something more has been read. -/
def Draft.put (d : Draft) : Topic → Content → Draft
  | .mapSize, .size c => { d with mapSize := some c }
  | .seed, .number n => { d with seed := some (UInt64.ofNat n.toNat) }
  | .villagers, .number n => { d with villagers := some (UInt64.ofNat n.toNat) }
  | .resources, .number n => { d with resources := some (UInt64.ofNat n.toNat) }
  | .houses, .number n => { d with houses := some (UInt64.ofNat n.toNat) }
  | .quadtreeCapacity, .number n => { d with quadtreeCapacity := some (UInt64.ofNat n.toNat) }
  | .viewport, .extents width height =>
    { d with viewport := some (Int32.ofInt width, Int32.ofInt height) }
  | .frames, .number n => { d with frames := some (UInt64.ofNat n.toNat) }
  | _, _ => d

theorem number_ofNat {n : Int} (low : 0 ≤ n) (high : n ≤ 18446744073709551615) :
    Content.number (UInt64.ofNat n.toNat).toNat = .number n := by
  have lt : n.toNat < UInt64.size := by
    have size : UInt64.size = 18446744073709551616 := rfl
    omega
  rw [UInt64.toNat_ofNat_of_lt' lt, Int.toNat_of_nonneg low]

/-- What is put into a draft is what has been read about its topic, and the other topics stay as
they are. -/
theorem Draft.about_put {topic : Topic} {content : Content} (admits : topic.Admits content)
    (d : Draft) (topic' : Topic) :
    (d.put topic content).about topic'
      = if topic' = topic then some content else d.about topic' := by
  cases content with
  | size c =>
    cases topic with
    | mapSize => cases topic' <;> rfl
    | _ => exact False.elim admits
  | extents width height =>
    cases topic with
    | viewport =>
      have same : Content.extents (Int32.ofInt width).toInt (Int32.ofInt height).toInt
          = .extents width height := by
        rw [Coord.toInt_ofInt admits.1, Coord.toInt_ofInt admits.2]
      cases topic' with
      | viewport => exact congrArg some same
      | _ => rfl
    | _ => exact False.elim admits
  | number n =>
    cases topic with
    | mapSize | viewport => exact False.elim admits
    | _ =>
      have same := congrArg some (number_ofNat admits.1 admits.2)
      cases topic' <;> first | rfl | exact same

/-- A draft tells of a topic what has been read, or else the default. -/
theorem about_toSettings (d : Draft) (topic : Topic) :
    d.toSettings.about topic = (d.about topic).getD topic.fallback := by
  have getD {α : Type} (o : Option α) (f : α → Content) (a : α) :
      f (o.getD a) = (o.map f).getD (f a) := by
    cases o <;> rfl
  cases topic with
  | mapSize => exact getD d.mapSize .size .tiny
  | seed => exact getD d.seed (fun n => .number n.toNat) 1
  | villagers => exact getD d.villagers (fun n => .number n.toNat) 3
  | resources => exact getD d.resources (fun n => .number n.toNat) 40
  | houses => exact getD d.houses (fun n => .number n.toNat) 2
  | quadtreeCapacity => exact getD d.quadtreeCapacity (fun n => .number n.toNat) 8
  | viewport => exact getD d.viewport (fun v => .extents v.1.toInt v.2.toInt) (1024, 768)
  | frames => exact getD d.frames (fun n => .number n.toNat) 600

/-! ### Fields -/

/-- The word that a tree stands for. -/
def word? (t : Tree) : Option Int := t.integer?.filter fun i => 0 ≤ i ∧ i ≤ 18446744073709551615

/-- The extent that a tree stands for. -/
def extent? (t : Tree) : Option Int := t.integer?.filter fun i => Coord.InRange i

/-- The content that a tree gives of a topic. -/
def Topic.content? : Topic → Tree → Option Content
  | .mapSize, t => (t.name?.bind fun s => SizeClass.all.find? fun c => c.name == s).map .size
  | .viewport, t => (t.pair? extent? extent?).map fun v => .extents v.1 v.2
  | _, t => (word? t).map .number

theorem answers_wide (name : String) (t : Tree) (f : UInt64 → Draft) :
    ((Codec.wide name).reader.map f).Answers t
      ((word? t).map (f ∘ fun n => UInt64.ofNat n.toNat)) := by
  have read := (Json.answers_readInteger ⟨name, 0, 18446744073709551615⟩ t).map
    fun n => UInt64.ofNat n.toNat
  rw [← Option.map_map]
  exact Reader.Answers.map read f

theorem answers_coordinate (t : Tree) :
    Codec.coordinate.reader.Answers t ((extent? t).map Int32.ofInt) :=
  (Json.answers_readInteger ⟨"i32", -2147483648, 2147483647⟩ t).map Int32.ofInt

theorem answers_extents (t : Tree) (f : Int32 × Int32 → Draft) :
    (extents.reader.map f).Answers t
      ((t.pair? extent? extent?).map (f ∘ fun v => (Int32.ofInt v.1, Int32.ofInt v.2))) := by
  have read := Json.answers_readPair answers_coordinate answers_coordinate t
  rw [Tree.pair?_map] at read
  rw [← Option.map_map]
  exact Reader.Answers.map read f

/-- Every topic has its field, which is set if the topic has been read. -/
theorem exists_field (topic : Topic) : ∃ f,
    (shape.fields.find? fun f => f.name == topic.key) = some f ∧
      (∀ d, f.isSet d = (d.about topic).isSome) ∧
      ∀ d t, (f.read d).Answers t ((topic.content? t).map (d.put topic)) := by
  have isSome {α : Type} (o : Option α) (f : α → Content) : o.isSome = (o.map f).isSome := by
    cases o <;> rfl
  cases topic with
  | mapSize =>
    refine ⟨_, rfl, fun d => isSome _ _, fun d t => ?_⟩
    simp only [Topic.content?, Option.map_map, Codec.field]
    exact (Json.answers_readVariant SizeClass.all SizeClass.name t).map _
  | viewport =>
    refine ⟨_, rfl, fun d => isSome _ _, fun d t => ?_⟩
    simp only [Topic.content?, Option.map_map, Codec.field]
    exact answers_extents t _
  | seed | frames =>
    refine ⟨_, rfl, fun d => isSome _ _, fun d t => ?_⟩
    simp only [Topic.content?, Option.map_map, Codec.field]
    exact answers_wide "u64" t _
  | villagers | resources | houses | quadtreeCapacity =>
    refine ⟨_, rfl, fun d => isSome _ _, fun d t => ?_⟩
    simp only [Topic.content?, Option.map_map, Codec.field]
    exact answers_wide "usize" t _

theorem field_of_mem {f : Json.Field Draft} (mem : f ∈ shape.fields) : ∃ topic : Topic,
    topic.key = f.name ∧ (shape.fields.find? fun f => f.name == topic.key) = some f := by
  simp only [shape, List.mem_cons, List.not_mem_nil, or_false] at mem
  rcases mem with rfl | rfl | rfl | rfl | rfl | rfl | rfl | rfl
  · exact ⟨.mapSize, rfl, rfl⟩
  · exact ⟨.seed, rfl, rfl⟩
  · exact ⟨.villagers, rfl, rfl⟩
  · exact ⟨.resources, rfl, rfl⟩
  · exact ⟨.houses, rfl, rfl⟩
  · exact ⟨.quadtreeCapacity, rfl, rfl⟩
  · exact ⟨.viewport, rfl, rfl⟩
  · exact ⟨.frames, rfl, rfl⟩

theorem wholeOn (t : Tree) : shape.WholeOn t := by
  intro f mem d
  obtain ⟨topic, -, found⟩ := field_of_mem mem
  obtain ⟨f', found', -, answers⟩ := exists_field topic
  obtain rfl : f = f' := Option.some.inj (found.symm.trans found')
  rw [(answers d t).answer_eq]
  exact answers d t

/-! ### Contents -/

theorem word?_ofInt_eq_some_iff {n i : Int} :
    word? (.number (.ofInt n)) = some i ↔ n = i ∧ 0 ≤ i ∧ i ≤ 18446744073709551615 := by
  have digits := @Json.filter_integer?_ofInt ⟨"u64", 0, 18446744073709551615⟩ (by decide)
    (by decide) n
  have within : word? (.number (.ofInt n))
    = (some n).filter fun i => 0 ≤ i ∧ i ≤ 18446744073709551615 := digits
  rw [within, Option.filter_eq_some_iff, Option.some.injEq, decide_eq_true_eq]

theorem extent?_ofInt_eq_some_iff {n i : Int} :
    extent? (.number (.ofInt n)) = some i ↔ n = i ∧ Coord.InRange i := by
  have digits := @Json.filter_integer?_ofInt ⟨"i32", -2147483648, 2147483647⟩ (by decide)
    (by decide) n
  have within : extent? (.number (.ofInt n)) = (some n).filter fun i => Coord.InRange i := digits
  rw [within, Option.filter_eq_some_iff, Option.some.injEq, decide_eq_true_eq]

/-- Nothing is read where a content is written that the topic cannot have. -/
theorem content?_iff_of_refused {topic : Topic} {content content' : Content} {t : Tree}
    (unread : topic.content? t = none) (refused : ¬ topic.Admits content) :
    topic.content? t = some content' ↔ content = content' ∧ topic.Admits content' := by
  constructor
  · intro read
    cases unread.symm.trans read
  · rintro ⟨rfl, admits⟩
    exact absurd admits refused

/-- What is written is the content that is read, if the topic can have it. -/
theorem content?_eq_some_iff {content : Content} {t : Tree} (written : content.Written t)
    {topic : Topic} {content' : Content} :
    topic.content? t = some content' ↔ content = content' ∧ topic.Admits content' := by
  cases written with
  | @size c pieces named =>
    -- a text is a size class and nothing else
    cases topic with
    | mapSize =>
      have found :
          SizeClass.all.find? (fun c' => c'.name == String.ofList c.name.toList) = some c := by
        cases c <;> decide
      rw [Topic.content?, Tree.name?, named, Option.map_some, Option.bind_some, found,
        Option.map_some, Option.some.injEq]
      constructor
      · rintro rfl
        exact ⟨rfl, trivial⟩
      · exact And.left
    | _ => exact content?_iff_of_refused rfl id
  | number n =>
    -- a single number is anything but a size class and extents
    cases topic with
    | mapSize | viewport => exact content?_iff_of_refused rfl id
    | _ =>
      simp only [Topic.content?, Option.map_eq_some_iff, word?_ofInt_eq_some_iff]
      constructor
      · rintro ⟨i, ⟨rfl, admits⟩, rfl⟩
        exact ⟨rfl, admits⟩
      · rintro ⟨rfl, admits⟩
        exact ⟨n, ⟨rfl, admits⟩, rfl⟩
  | extents width height =>
    cases topic with
    | viewport =>
      rw [Topic.content?, Option.map_eq_some_iff]
      constructor
      · rintro ⟨v, pair, rfl⟩
        obtain ⟨_, _, ⟨rfl, rfl⟩, first, second⟩ := Tree.pair?_eq_some_iff.mp pair
        obtain ⟨rfl, low⟩ := extent?_ofInt_eq_some_iff.mp first
        obtain ⟨rfl, high⟩ := extent?_ofInt_eq_some_iff.mp second
        exact ⟨rfl, low, high⟩
      · rintro ⟨rfl, low, high⟩
        have first := extent?_ofInt_eq_some_iff.mpr ⟨rfl, low⟩
        have second := extent?_ofInt_eq_some_iff.mpr ⟨rfl, high⟩
        exact ⟨(width, height), Tree.pair?_eq_some_iff.mpr ⟨_, _, rfl, first, second⟩, rfl⟩
    | _ => exact content?_iff_of_refused rfl id

/-- A topic admits whatever is read of it. -/
theorem admits_of_content? {topic : Topic} {t : Tree} {content : Content}
    (read : topic.content? t = some content) : topic.Admits content := by
  have word {n : Int} (h : word? t = some n) : 0 ≤ n ∧ n ≤ 18446744073709551615 :=
    of_decide_eq_true (Option.filter_eq_some_iff.mp h).2
  have extent {t : Tree} {n : Int} (h : extent? t = some n) : Coord.InRange n :=
    of_decide_eq_true (Option.filter_eq_some_iff.mp h).2
  cases topic with
  | mapSize =>
    obtain ⟨c, -, rfl⟩ := Option.map_eq_some_iff.mp read
    trivial
  | viewport =>
    obtain ⟨v, pair, rfl⟩ := Option.map_eq_some_iff.mp read
    obtain ⟨_, _, _, width, height⟩ := Tree.pair?_eq_some_iff.mp pair
    exact ⟨extent width, extent height⟩
  | _ =>
    obtain ⟨n, h, rfl⟩ := Option.map_eq_some_iff.mp read
    exact word h

/-! ### Members of a settings file -/

section Members

variable {d d' : Draft} {topic : Topic} {key : List Piece} {t : Tree}
  {ms : List (List Piece × Tree)} {given : List (Topic × Content)}

/-- A member under the key of a topic says what the topic is to be, once. -/
theorem take_eq_some_iff (named : Piece.decode key = some topic.key.toList) :
    shape.take d (key, t) = some d' ↔ d.about topic = none ∧
      ∃ content, topic.content? t = some content ∧ d.put topic content = d' := by
  obtain ⟨f, found, isSet, answers⟩ := exists_field topic
  rw [Json.RecordShape.take, named, Option.bind_some, String.ofList_toList, found]
  dsimp only
  rw [isSet, (answers d t).answer_eq]
  cases d.about topic with
  | none =>
    rw [Option.isSome_none, if_neg Bool.false_ne_true, Option.map_eq_some_iff]
    exact (and_iff_right rfl).symm
  | some content =>
    rw [Option.isSome_some, if_pos rfl]
    constructor
    · intro taken
      cases taken
    · rintro ⟨fresh, -⟩
      cases fresh

/-- A member under another key says nothing. -/
theorem take_of_unknown {name : List Char} (named : Piece.decode key = some name)
    (unknown : ∀ topic : Topic, topic.key.toList ≠ name) : shape.take d (key, t) = some d := by
  have missing : (shape.fields.find? fun f => f.name == String.ofList name) = none := by
    refine List.find?_eq_none.mpr fun f mem same => ?_
    obtain ⟨topic, same', -⟩ := field_of_mem mem
    have same : f.name = String.ofList name := beq_iff_eq.mp same
    exact unknown topic (by rw [same', same, String.toList_ofList])
  rw [Json.RecordShape.take, named, Option.bind_some, missing]

/-- Members that give admissible contents of topics that have not been read are all taken. -/
theorem Given.exists_fold (h : Given ms given) (fresh : ∀ g ∈ given, d.about g.1 = none)
    (once : (given.map Prod.fst).Nodup) (admits : ∀ g ∈ given, g.1.Admits g.2) :
    ∃ d', ms.foldlM shape.take d = some d' := by
  induction h generalizing d with
  | nil => exact ⟨d, rfl⟩
  | @known key t ms given topic content named written _ ih =>
    -- the first member leaves the topics of the others unread
    obtain ⟨new, once⟩ := List.nodup_cons.mp once
    have allowed : topic.Admits content := admits _ List.mem_cons_self
    have taken : shape.take d (key, t) = some (d.put topic content) :=
      (take_eq_some_iff named).mpr ⟨fresh _ List.mem_cons_self, content,
        (content?_eq_some_iff written).mpr ⟨rfl, allowed⟩, rfl⟩
    rw [List.foldlM_cons, taken]
    refine ih (fun g mem => ?_) once fun g mem => admits g (List.mem_cons_of_mem _ mem)
    have other : g.1 ≠ topic := fun same => new (List.mem_map.mpr ⟨g, mem, same⟩)
    rw [Draft.about_put allowed, if_neg other]
    exact fresh g (List.mem_cons_of_mem _ mem)
  | @unknown key name t ms given named other _ ih =>
    rw [List.foldlM_cons, take_of_unknown named other]
    exact ih fresh once admits

/-- Members that are all taken give admissible contents of topics that had not been read, each topic
once, and what is read in the end is what they give. -/
theorem Given.of_fold (h : Given ms given) (fold : ms.foldlM shape.take d = some d') :
    (∀ g ∈ given, d.about g.1 = none) ∧ (given.map Prod.fst).Nodup ∧ (∀ g ∈ given, g.1.Admits g.2) ∧
      ∀ topic, d'.about topic = (given.lookup topic).or (d.about topic) := by
  induction h generalizing d with
  | nil =>
    obtain rfl : d = d' := Option.some.inj fold
    exact ⟨nofun, List.nodup_nil, nofun, fun topic => rfl⟩
  | @known key t ms given topic content named written _ ih =>
    rw [List.foldlM_cons] at fold
    obtain ⟨d₁, taken, fold⟩ := Option.bind_eq_some_iff.mp fold
    obtain ⟨fresh, content', read, rfl⟩ := (take_eq_some_iff named).mp taken
    obtain ⟨rfl, allowed⟩ := (content?_eq_some_iff written).mp read
    obtain ⟨fresh', once, admits, about⟩ := ih fold
    simp only [Draft.about_put allowed] at fresh' about
    -- the topic has just been read, so no later member gives it
    have new (g : Topic × Content) (mem : g ∈ given) : g.1 ≠ topic ∧ d.about g.1 = none := by
      have fresh := fresh' g mem
      split at fresh
      · cases fresh
      · next other => exact ⟨other, fresh⟩
    refine ⟨List.forall_mem_cons.mpr ⟨fresh, fun g mem => (new g mem).2⟩, ?_,
      List.forall_mem_cons.mpr ⟨allowed, admits⟩, fun topic' => ?_⟩
    · refine List.nodup_cons.mpr ⟨fun mem => ?_, once⟩
      obtain ⟨g, mem, same⟩ := List.mem_map.mp mem
      exact (new g mem).1 same
    · rw [about, List.lookup_cons]
      by_cases same : topic' = topic
      · subst same
        have missing : given.lookup topic' = none :=
          List.lookup_eq_none_iff.mpr fun g mem => bne_iff_ne.mpr (new g mem).1.symm
        rw [missing, if_pos rfl, beq_self_eq_true]
        rfl
      · rw [if_neg same, beq_eq_false_iff_ne.mpr same]
  | @unknown key name t ms given named other _ ih =>
    rw [List.foldlM_cons, take_of_unknown named other] at fold
    exact ih fold

/-- Whether a member stands under the key of a topic. -/
def Topic.Names (topic : Topic) (m : List Piece × Tree) : Prop :=
  Piece.decode m.1 = some topic.key.toList

instance (topic : Topic) (m : List Piece × Tree) : Decidable (topic.Names m) :=
  inferInstanceAs (Decidable (_ = _))

/-- At the start nothing has been read. -/
theorem about_blank (topic : Topic) : shape.blank.about topic = none := by
  cases topic <;> rfl

/-- What has been read of a topic stays. -/
theorem isSome_about_of_take {m : List Piece × Tree} (taken : shape.take d m = some d')
    (read : (d.about topic).isSome) : (d'.about topic).isSome := by
  obtain ⟨name, named, -⟩ := Option.bind_eq_some_iff.mp taken
  by_cases known : ∃ topic' : Topic, topic'.key.toList = name
  · obtain ⟨topic', rfl⟩ := known
    obtain ⟨-, content, read', rfl⟩ := (take_eq_some_iff named).mp taken
    rw [Draft.about_put (admits_of_content? read')]
    split
    · rfl
    · exact read
  · rw [take_of_unknown named fun topic' same => known ⟨topic', same⟩] at taken
    exact Option.some.inj taken ▸ read

/-- A topic that has been read is not read again. -/
theorem not_names_of_fold (fold : ms.foldlM shape.take d = some d')
    (read : (d.about topic).isSome) : ∀ m ∈ ms, ¬ topic.Names m := by
  induction ms generalizing d with
  | nil => exact nofun
  | cons m ms ih =>
    rw [List.foldlM_cons] at fold
    obtain ⟨d₁, taken, fold⟩ := Option.bind_eq_some_iff.mp fold
    refine List.forall_mem_cons.mpr ⟨fun named => ?_, ih fold (isSome_about_of_take taken read)⟩
    have fresh := ((take_eq_some_iff named).mp taken).1
    rw [fresh] at read
    cases read

/-- If all members are taken then no topic has two. -/
theorem countP_names_le_of_fold (topic : Topic) (fold : ms.foldlM shape.take d = some d') :
    ms.countP (fun m => topic.Names m) ≤ 1 := by
  induction ms generalizing d with
  | nil => exact Nat.zero_le 1
  | cons m ms ih =>
    rw [List.foldlM_cons] at fold
    obtain ⟨d₁, taken, fold⟩ := Option.bind_eq_some_iff.mp fold
    -- the first member of the topic has to be the last one
    by_cases named : topic.Names m
    · obtain ⟨-, content, read, rfl⟩ := (take_eq_some_iff named).mp taken
      have said : ((d.put topic content).about topic).isSome := by
        rw [Draft.about_put (admits_of_content? read), if_pos rfl]
        rfl
      have others : ms.countP (fun m => topic.Names m) = 0 :=
        List.countP_eq_zero.mpr fun m mem found =>
          not_names_of_fold fold said m mem (of_decide_eq_true found)
      rw [List.countP_cons_of_pos (p := fun m => topic.Names m) (decide_eq_true named), others]
    · rw [List.countP_cons_of_neg (p := fun m => topic.Names m)
        fun h => named (of_decide_eq_true h)]
      exact ih fold

end Members

/-! ### Settings files -/

theorem load_file (text : String) : load? (.file text.toUTF8) = parse text := by
  have decoded : String.fromUTF8? text.toUTF8 = some text := dif_pos text.isValidUTF8
  rw [load?, decoded]

/-- What is loaded from a layout of a record is what its members amount to. -/
theorem load_eq_ok_iff {ms : List (List Piece × Tree)} {cs : List Char} {s : Settings}
    (layout : Layout (Tree.record ms).tokens cs) : load? (.file (String.ofList cs).toUTF8) = .ok s ↔
      ∃ d, ms.foldlM shape.take shape.blank = some d ∧ d.toSettings = s := by
  have answers := Json.RecordShape.answers_readRecord (r := shape) fun m (_ : m ∈ ms) => wholeOn m.2
  have read := Json.toOption_readText answers layout
  have mapError {α β ε : Type} (x : Except α ε) (f : α → β) (e : ε) :
      x.mapError f = .ok e ↔ x.toOption = some e := by
    cases x with
    | error _ => exact ⟨nofun, nofun⟩
    | ok a =>
      exact ⟨fun h => congrArg some (Except.ok.inj h), fun h => congrArg _ (Option.some.inj h)⟩
  rw [load_file, parse, mapError, Codec.read, show codec.reader = Json.readRecord shape from rfl,
    read, Option.bind_eq_some_iff]
  refine exists_congr fun d => and_congr_right fun _ => ?_
  have finish : shape.finish d = .ok d.toSettings := rfl
  rw [finish]
  exact Option.some_inj

/-- Which settings are loaded from a layout of a record.  If its members give contents of topics, in
any order and with any other members between them, then settings are loaded if and only if no topic
is given twice and every content is one that its topic can have; what the settings say of a topic is
what was given, or else the default.  If a topic has two members then nothing is loaded. -/
theorem load_of_layout {ms : List (List Piece × Tree)} {cs : List Char}
    (layout : Layout (Tree.record ms).tokens cs) :
    (∀ given, Given ms given →
      ((∃ s, load? (.file (String.ofList cs).toUTF8) = .ok s) ↔
        (given.map Prod.fst).Nodup ∧ ∀ g ∈ given, g.1.Admits g.2) ∧
      ∀ s, load? (.file (String.ofList cs).toUTF8) = .ok s →
        ∀ topic, s.about topic = (given.lookup topic).getD topic.fallback) ∧
    ∀ topic : Topic, 2 ≤ ms.countP (fun m => topic.Names m) →
      ∀ s, load? (.file (String.ofList cs).toUTF8) ≠ .ok s := by
  refine ⟨fun given gives => ⟨⟨?_, ?_⟩, fun s loaded topic => ?_⟩, fun topic twice s loaded => ?_⟩
  · rintro ⟨s, loaded⟩
    obtain ⟨d, fold, -⟩ := (load_eq_ok_iff layout).mp loaded
    obtain ⟨-, once, admits, -⟩ := gives.of_fold fold
    exact ⟨once, admits⟩
  · rintro ⟨once, admits⟩
    obtain ⟨d, fold⟩ :=
      gives.exists_fold (d := shape.blank) (fun g _ => about_blank g.1) once admits
    exact ⟨d.toSettings, (load_eq_ok_iff layout).mpr ⟨d, fold, rfl⟩⟩
  · obtain ⟨d, fold, rfl⟩ := (load_eq_ok_iff layout).mp loaded
    obtain ⟨-, -, -, about⟩ := gives.of_fold fold
    rw [about_toSettings, about, about_blank, Option.or_none]
  · obtain ⟨d, fold, -⟩ := (load_eq_ok_iff layout).mp loaded
    exact absurd (countP_names_le_of_fold topic fold) (Nat.not_le.mpr twice)

/-- A file that tells of three topics and holds a remark. -/
def remarked : List (String × Json.Value) :=
  [("frames", .ofInt 0), ("remark", .list [.record [("seed", .null)], .text "1e999"]),
    ("seed", .ofInt 18446744073709551615), ("viewport", .list [.ofInt (-5), .ofInt 2147483647])]

/-- A file that tells of a topic twice. -/
def repeated : List (String × Json.Value) := [("houses", .ofInt 7), ("houses", .ofInt 7)]

theorem load_remarked_and_repeated :
    (∃ s, load? (.file (Json.Value.record remarked).pretty.toUTF8) = .ok s ∧
      s.about .frames = .number 0 ∧ s.about .seed = .number 18446744073709551615 ∧
      s.about .viewport = .extents (-5) 2147483647 ∧ s.about .houses = .number 2) ∧
    ∀ s, load? (.file (Json.Value.record repeated).pretty.toUTF8) ≠ .ok s := by
  have number (n : Int) : (Json.Value.ofInt n).IsPrintable := Json.Numeral.spells_text_ofInt n
  have printable : (Json.Value.record remarked).IsPrintable :=
    ⟨number _, ⟨⟨trivial, trivial⟩, trivial, trivial⟩, number _, ⟨number _, number _, trivial⟩,
      trivial⟩
  have printable' : (Json.Value.record repeated).IsPrintable := ⟨number _, number _, trivial⟩
  have gives : Given (Json.Value.members remarked)
      [(.frames, .number 0), (.seed, .number 18446744073709551615),
        (.viewport, .extents (-5) 2147483647)] := by
    refine .known (Piece.decode_map_ofChar _) (.number _)
      (.unknown (Piece.decode_map_ofChar _) ?_ ?_)
    · intro topic
      cases topic <;> decide
    · exact .known (Piece.decode_map_ofChar _) (.number _)
        (.known (Piece.decode_map_ofChar _) (.extents _ _) .nil)
  obtain ⟨loads, loaded⟩ := (load_of_layout (Json.Value.layout_pretty printable)).1 _ gives
  have admits : ∀ g ∈ [(Topic.frames, Content.number 0), (.seed, .number 18446744073709551615),
      (.viewport, .extents (-5) 2147483647)], g.1.Admits g.2 := by
    refine List.forall_mem_cons.mpr ⟨⟨by decide, by decide⟩, ?_⟩
    refine List.forall_mem_cons.mpr ⟨⟨by decide, by decide⟩, ?_⟩
    exact List.forall_mem_cons.mpr ⟨⟨by decide, by decide⟩, nofun⟩
  obtain ⟨s, eq⟩ := loads.mpr ⟨by decide, admits⟩
  refine ⟨⟨s, eq, loaded s eq .frames, loaded s eq .seed, loaded s eq .viewport,
    loaded s eq .houses⟩, ?_⟩
  refine (load_of_layout (Json.Value.layout_pretty printable')).2 .houses ?_
  decide

end Skirmish.Settings
