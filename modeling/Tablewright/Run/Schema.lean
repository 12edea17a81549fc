import Tablewright.Run.Basic
import Tablewright.Schema.Extraction
import Tablewright.Schema.Selection

/-!
# The schema of a run

The tables of a schema file, of which a selection is kept. The file is read and never written.
-/

namespace Tablewright.Run

open Files (Path)

/-- The selected tables of a schema file. -/
def selectTables
    (path : Path)
    (selection : Schema.Selection) : Run (List String) := do
  let content ←
    ask (·.readFile · path) (reportOfFile .schema "Could not read schema file" path)
  let text := Text.decodeLoosely content
  let tables := Schema.tablesOfText text
  log [.debug ("Read " ++ toString content.length ++ " bytes from " ++ path.text)]
  log (Schema.readingLog text)
  log [.info ("Found " ++ toString tables.length ++ " tables in " ++ path.text)]
  log (selection.log tables)
  return selection.apply tables

end Tablewright.Run
