import Tablewright.Document.Construction
import Tablewright.Run.Basic

/-!
# The settings of a run

Settings are read from a document that holds a mapping. Without a document, or with an empty one, all
options have the values of their own.
-/

namespace Tablewright.Run

open Files (Path)

/-- Ends a run with a report on a file of settings. -/
def failAtSettings
    {α : Type}
    (file message : String) : Run α :=
  fail .configuration message (some file)

/-- The text of a file of settings. What is left over at its end counts from its own beginning. -/
def readSettingsText
    (path : Path) : Run String := do
  let content ← ask (·.readFile · path) .file
  match Text.decode content with
  | .ok text => return String.ofList (Text.unifyLineEnds text.toList)
  | .error error =>
      throw (.undecodable
        (if error.malformation = .unexpectedEnd then { error with position := 0 } else error))

/-- The entries of a file of settings. -/
def readSettings
    (file : String) : Run (List (Value × Value)) := do
  let path := Path.ofText file
  match (← ask (·.status? · path) .file) with
  | some (.file _) =>
      match Document.read (← readSettingsText path) with
      | .error (.scalar fault) => throw (.scalar fault)
      | .error fault =>
          failAtSettings file ("Error parsing YAML file: " ++ fault.message path.text)
      | .ok none =>
          log [.warning ("Config file " ++ file ++ " is empty. Using defaults.")]
          return []
      | .ok (some .null) =>
          log [.warning ("Config file " ++ file ++ " is empty. Using defaults.")]
          return []
      | .ok (some (.map entries)) =>
          log [.debug ("Loaded configuration from " ++ file)]
          return entries
      | .ok (some _) => failAtSettings file "Config file content must be a mapping."
  | _ => failAtSettings file ("Config file not found at " ++ file)

def checkSettings
    (file? : Option String)
    (value : Value) : Run Settings := do
  match Settings.validate file? value with
  | .ok settings =>
      log settings.validationLog
      return settings
  | .error (.report told) => throw (.report told)
  | .error (.interruption cause) => throw (.interruption cause)

/-- The settings of a file, or those of a run without one. -/
def loadSettings
    (file? : Option String) : Run Settings := do
  match file? with
  | none => checkSettings none (.map [])
  | some file =>
      if file = "" then checkSettings none (.map [])
      else checkSettings (some file) (.map (← readSettings file))

end Tablewright.Run
