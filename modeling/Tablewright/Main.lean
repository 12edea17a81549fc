import Tablewright.CommandLine.Session

/-!
# The program

The program takes from the disk what a session may ask for, lets the session work on that, and writes
back what has changed.
-/

namespace Tablewright.CommandLine

open Files (Entry Path Place Tree)

def textOfPlace
    (place : Place) : String :=
  (Path.ofPlace place).text

/-- The places on the way to a place, with the place itself. -/
def placesTo
    (place : Place) : List Place :=
  (List.range place.length).map fun n => place.take (n + 1)

/-- The places that a session with arguments may ask for. -/
def placesOf
    (workingDirectory : Place)
    (arguments : Arguments)
    (settings : Settings) : List Place :=
  let paths := (arguments.schema.toList ++ arguments.output.toList).map Path.ofText
  let template := arguments.output.toList.map fun text =>
    Files.templatePath ((Path.ofText text).resolve workingDirectory) settings.templateFilename
  let config := arguments.config.toList.map Path.ofText
  (paths ++ template ++ config).flatMap fun path => placesTo (path.placeFrom workingDirectory)

/-- What is at a place of the disk. -/
def readPlace
    (place : Place) : IO (Option Entry) := do
  let path := (← IO.currentDir) / textOfPlace place
  if ← path.isDir then return some .directory
  else if ← path.pathExists then
    return some (.file (← IO.FS.readBinFile path).toList)
  else return none

/-- The tree of what is at some places of the disk. -/
def readPlaces
    (places : List Place) : IO Tree :=
  places.foldlM (fun tree place => do
    match (← readPlace place) with
    | some entry => return tree.set place entry
    | none => return tree) ⟨[]⟩

/-- Writes to the disk what is at a place. -/
def writePlace
    (place : Place) : Entry → IO Unit
  | .directory => IO.FS.createDirAll (textOfPlace place)
  | .file content => IO.FS.writeBinFile (textOfPlace place) ⟨content.toArray⟩

/-- Writes to the disk what a session has changed. -/
def writeChanges
    (before after : Tree) : IO Unit := do
  for (place, _) in before.entries do
    if (after.get? place).isNone then IO.FS.removeFile (textOfPlace place)
  for (place, entry) in after.entries do
    if before.get? place ≠ some entry then writePlace place entry

/-- Runs a session for arguments on the disk. -/
def runOnDisk
    (words : List String)
    (arguments : Arguments) : IO Outcome := do
  let workingDirectory := (Path.ofText (← IO.currentDir).toString).placeFrom []
  let surroundings : Run.Surroundings := ⟨workingDirectory, .works⟩
  let first ← readPlaces (placesOf workingDirectory arguments Settings.standard)
  let settings :=
    match ((Run.loadSettings arguments.config).perform surroundings first).1 with
    | .ok settings => settings
    | .error _ => Settings.standard
  let tree ← readPlaces (placesOf workingDirectory arguments settings)
  let terminal ← (← IO.getStderr).isTty
  let (outcome, after) := follow words terminal surroundings tree
  writeChanges tree after
  return outcome

def followOnDisk
    (words : List String) : IO Outcome := do
  match Request.ofTexts words with
  | .ok (.run arguments) => runOnDisk words arguments
  | _ => return (follow words false ⟨[], .works⟩ ⟨[]⟩).1

end Tablewright.CommandLine

/-- Generates a module for a schema, as the words of the command line ask for. -/
def main
    (words : List String) : IO UInt32 := do
  let outcome ← Tablewright.CommandLine.followOnDisk words
  (← IO.getStdout).putStr outcome.output
  (← IO.getStderr).putStr outcome.diagnostics
  return outcome.status.toUInt32
