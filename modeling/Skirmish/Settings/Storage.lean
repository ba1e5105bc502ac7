import Skirmish.Settings.Codec

/-!
# Stored settings

Settings are kept in a file of the player's documents folder.  What the path of that file leads to
is given as a value, so that loading and saving are functions.

## Main definitions

* `Settings.Place` — what a path leads to.
* `Settings.load?`, `Settings.save?` — reading and writing the file at a path, with their errors.
* `Settings.loadOrDefault`, `Settings.saveIfPossible` — the same without errors.
* `Settings.homeFolder` — the folder of the player, from the environment.
-/

namespace Skirmish.Settings

/-- What the path of a settings file leads to. -/
inductive Place where
  /-- There is no such path: the player has no home, or the folder cannot be made. -/
  | unreachable
  /-- Nothing is there. -/
  | absent
  /-- A file is there. -/
  | file (bytes : ByteArray)
  /-- A folder is there. -/
  | folder

/-- Why settings were not loaded. -/
inductive LoadError where
  /-- There is no file, or it is not a text. -/
  | unreadable
  /-- The text does not hold settings. -/
  | problem (p : Json.Problem)

/-- The settings that a text holds. -/
def parse (text : String) : Except LoadError Settings :=
  (codec.read text).mapError .problem

/-- The text that settings are stored as. -/
def render (s : Settings) : String := codec.writePretty s

/-- The settings at a path. -/
def load? : Place → Except LoadError Settings
  | .file bytes =>
    match String.fromUTF8? bytes with
    | some text => parse text
    | none => .error .unreadable
  | _ => .error .unreadable

/-- What a path leads to after settings were written there; nothing can be written over a folder or
where there is no path. -/
def save? (s : Settings) : Place → Option Place
  | .unreachable | .folder => none
  | .absent | .file _ => some (.file s.render.toUTF8)

/-- The settings at a path; whatever goes wrong, the default settings. -/
def loadOrDefault (place : Place) : Settings :=
  match load? place with
  | .ok s => s
  | .error _ => {}

/-- What a path leads to after an attempt to write settings there. -/
def saveIfPossible (s : Settings) (place : Place) : Place := (s.save? place).getD place

/-- The folder of the player: the user profile, or else the home folder. -/
def homeFolder (userProfile home : Option String) : Option String := userProfile <|> home

/-- The settings file in a home folder, as the names along its path. -/
def filePath : List String := ["Documents", "Empires", "settings.json"]

end Skirmish.Settings
