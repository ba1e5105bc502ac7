import Skirmish.Session.Basic
import Skirmish.Settings.Storage
import Skirmish.World.Founding

/-!
# The headless runner

Founds a match from the stored settings and lets it run without players, sixty updates a second,
until the runner ends it.  At every interval of wandering the counts of the last frame are printed.
-/

namespace Skirmish.Main

/-- The bytes of a file, or the fact that there is none to read. -/
def readPlace (path : String) : IO Settings.Place := do
  try
    return .file (← IO.FS.readBinFile path)
  catch _ =>
    return .absent

/-- What the path of the settings file leads to in the player's home folder. -/
def settingsPlace : IO Settings.Place := do
  match Settings.homeFolder (← IO.getEnv "USERPROFILE") (← IO.getEnv "HOME") with
  | none => return .unreachable
  | some home =>
    try
      IO.FS.createDirAll ("/".intercalate (home :: Settings.filePath.dropLast))
      readPlace ("/".intercalate (home :: Settings.filePath))
    catch _ =>
      return .unreachable

/-- The counts of a frame in words. -/
def report (frame : UInt64) (s : FrameStats) : String :=
  "frame " ++ toString frame ++ ": " ++ toString s.ticked ++ " ticked, " ++ toString s.moved
    ++ " moved, " ++ toString s.visibleUnits ++ " units and " ++ toString s.visibleParticles
    ++ " particles in view, " ++ toString s.deadCulled ++ " dead left out"

/-- Update a session until it ends. -/
partial def run (s : Session) : IO UInt32 := do
  match s.update with
  | .error fault =>
    IO.eprintln fault.message
    return 101
  | .ok outcome =>
    let s := outcome.session
    if s.counter % Runner.wanderInterval = 0 then IO.println (report s.counter s.stats)
    if outcome.exits then return 0
    IO.sleep 16
    run s

end Skirmish.Main

/-- Found a match and run it. -/
def main : IO UInt32 := do
  let settings := Skirmish.Settings.loadOrDefault (← Skirmish.Main.settingsPlace)
  match Skirmish.World.generate settings with
  | .error fault =>
    IO.eprintln ("world generation failed: " ++ fault.message)
    return 1
  | .ok world =>
    Skirmish.Main.run (.start (some world) (some (.ofSettings settings)))
