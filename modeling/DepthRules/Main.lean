import DepthRules.CommandLine.Session
import DepthRules.Console.Plain

/-!
# The program

Reads the files and the settings that the command line and the environment name, runs the command
line, shows its outcome, and writes the files that it changed.
-/

namespace DepthRules.CommandLine

/-- What the environment says about settings. -/
def readEnvironment : IO Environment := do
  let texts ← settingsNames.mapM fun name => do
    return (← IO.getEnv name).map fun text => (name, text)
  return Environment.ofList (texts.filterMap id)

/-- The paths that a command line and the environment name. -/
def namedPaths (environment : Environment) (line : List String) : List String :=
  let said := (readWords line).toOption.getD []
  let configured := match Settings.build environment [] with
    | .ok settings => settings.rules.rulesFile.toList
    | .error _ => []
  operands said ++ valuesOf .rules said ++ valuesOf .output said ++ configured

/-- Adds what is at a path. -/
def readPath (files : Files) (path : String) : IO Files := do
  try
    return files.add path (← IO.FS.readBinFile path).toList
  catch
    | .inappropriateType .. => return files.add (path ++ "/") []
    | _ => return files

/-- The files at paths. -/
def readFiles (paths : List String) : IO Files := do
  let here := (Files.emptyAt []).locate (← IO.currentDir).toString
  (paths.flatMap Path.waysTo).foldlM readPath (Files.emptyAt here)

/-- Writes the files at paths whose bytes have changed. -/
def writeFiles (before after : Files) (paths : List String) : IO Unit := do
  for path in paths do
    match before.read path, after.read path with
    | .ok old, .ok new => if old ≠ new then IO.FS.writeBinFile path ⟨new.toArray⟩
    | .error _, .ok new => IO.FS.writeBinFile path ⟨new.toArray⟩
    | _, .error _ => pure ()

/-- What is said about a run beside what it shows. -/
def closing : Ending → Option String
  | .helped => some ("Usage: [OPTIONS] PATH\n" ++ "\n".intercalate (Switch.all.map Switch.word))
  | .refused error => some ("Error: " ++ error.message)
  | .aborted error => some ("Error: " ++ error.message.lossy)
  | .finished | .listed | .noRules | .failed => none

/-- Displays an outcome. -/
def display (outcome : Outcome) : IO Unit := do
  for entry in outcome.log do
    IO.eprintln (entry.level.word ++ " " ++ entry.message.lossy)
  for item in outcome.console do
    IO.println item.plain.lossy
  IO.print outcome.printed
  match closing outcome.ending with
  | some text => IO.eprintln text
  | none => pure ()

/-- Runs a command line on the disk. -/
def runOnDisk (line : List String) : IO UInt32 := do
  let environment ← readEnvironment
  let paths := namedPaths environment line
  let files ← readFiles paths
  let (session, outcome) := (Session.start environment files).runOn .plain line
  writeFiles files session.files paths
  display outcome
  return UInt32.ofNat outcome.ending.status

end DepthRules.CommandLine

def main (line : List String) : IO UInt32 := DepthRules.CommandLine.runOnDisk line
