import Tablewright.Run.Basic

/-!
# The output of a run

An old output is removed before the new one is written. Where that fails, it is written over.
-/

namespace Tablewright.Run

open Files (Path)

/-- Removes a file, if files can be removed. -/
def unlink
    (path : Path) : Run (Option Files.Failure) := do
  match (← read).unlinking with
  | .works =>
      let state ← get
      match state.tree.removeFile (← read).workingDirectory path with
      | .ok tree =>
          set { state with tree := tree }
          return none
      | .error failure => return some failure
  | .denied => return some ⟨.locked, path⟩
  | .ignored => return none

/-- Whether a file is gone when the time to wait for that is over. -/
def waitForRemoval
    (path : Path) : Run Bool := do
  return !(← exists? path)

/-- Removes an old output. A failure to do so is logged. -/
def removeOutput
    (path : Path)
    (timeout : Value) : Run Unit := do
  if (← exists? path) then
    match (← unlink path) with
    | some failure =>
        log [.error ("Error deleting file at " ++ path.text ++ ": " ++ failure.message)]
    | none =>
        if (← waitForRemoval path) then
          log [.info ("Successfully deleted existing file at " ++ path.text)]
        else
          log [.warning (path.text ++ " still visible " ++ timeout.display ++
            "s after delete; writing anyway.")]

/-- Writes an output in place of an old one, with the directories that it needs. -/
def writeOutput
    (path : Path)
    (content : String)
    (timeout : Value) : Run Unit := do
  if !(← exists? path.parent) then
    ensureDirectories path.parent (reportOfFile .output "Could not create output directory" path)
    log [.info ("Created output directory at " ++ path.parent.text)]
  removeOutput path timeout
  change (·.writeFile · path (Text.encode content))
    (reportOfFile .output "Could not write output file" path)

end Tablewright.Run
