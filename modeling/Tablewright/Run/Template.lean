import Tablewright.Run.Basic
import Tablewright.Template.Base
import Tablewright.Text.Occurrence

/-!
# Templates of a run

A template is written once, where nothing is, and is never changed afterwards. When it is read, a
marker that is missing or stands there more than once is warned of.
-/

namespace Tablewright.Run

open Files (Path)

/-- Makes sure that there is a template, and says whether it is new. -/
def ensureTemplate
    (path : Path)
    (className placeholder : String) : Run Bool := do
  if (← exists? path) then
    log [.debug ("Keeping existing template at " ++ path.text)]
    return false
  else
    let failure := reportOfFile .template "Could not write template" path
    ensureDirectories path.parent failure
    change (·.writeFile · path (Text.encode (Template.base className placeholder))) failure
    log [.info ("Created template file at " ++ path.text)]
    return true

/-- What is logged about the markers of a template. -/
def markerLog
    (path : Path)
    (placeholder content : String) : List LogRecord :=
  let occurrences := Text.countOccurrences placeholder content
  if occurrences = 0 then
    [.warning ("Placeholder '" ++ placeholder ++ "' not found in " ++ path.text ++
      "; no table methods will be inserted.")]
  else if 1 < occurrences then
    [.warning ("Placeholder '" ++ placeholder ++ "' appears " ++ toString occurrences ++
      " times in " ++ path.text ++ "; only the first is replaced.")]
  else []

/-- The text of a template. -/
def readTemplate
    (path : Path)
    (placeholder : String) : Run String := do
  let content ← readText path (reportOfFile .template "Could not read template" path)
  log (markerLog path placeholder content)
  return content

end Tablewright.Run
