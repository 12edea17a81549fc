import Tablewright.Methods.Names
import Tablewright.Naming.Overrides
import Tablewright.Schema.Selection

/-!
# Settings

The options of a run. Every option has a value of its own for runs that do not set it.
-/

namespace Tablewright

open Methods (MethodStyle)
open Naming (Overrides Pluralizer)

/-- The options of a run. -/
structure Settings where
  className : String
  templateFilename : String
  placeholder : String
  methodStyle : MethodStyle
  pluralizer : Pluralizer
  pluralOverrides : Overrides
  includeTables : Option (List String)
  excludeTables : Option (List String)
  deleteWaitTimeout : Float
  formatCode : Bool
  deriving Repr, Inhabited

namespace Settings

/-- The settings of a run that sets no option. -/
def standard : Settings where
  className := "SupabaseApi"
  templateFilename := "supabase_api_template.py"
  placeholder := "# [TABLE_METHODS]"
  methodStyle := .camel
  pluralizer := .suffix
  pluralOverrides := []
  includeTables := none
  excludeTables := none
  deleteWaitTimeout := 1.0
  formatCode := false

/-- The overrides that prevail in a run: the built-in ones and those of the settings. -/
def overrideTable
    (settings : Settings) : Overrides :=
  Overrides.withBuiltIn settings.pluralOverrides

/-- The tables that a run is about. -/
def selection
    (settings : Settings) : Schema.Selection :=
  ⟨settings.includeTables.getD [], settings.excludeTables.getD []⟩

/-- A list of tables, or nothing, as a value. -/
def tablesValue
    (tables? : Option (List String)) : Value :=
  match tables? with
  | some tables => .list (tables.map Value.text)
  | none => .null

/-- Overrides as a mapping of mappings. -/
def overridesValue
    (overrides : Overrides) : Value :=
  .map <| overrides.map fun (table, forms) =>
    (.text table,
      .map [(.text "singular", .text forms.singular), (.text "plural", .text forms.plural)])

/-- The options by name, in the order in which they are declared. -/
def fields
    (settings : Settings) : List (String × Value) :=
  [("class_name", .text settings.className),
    ("template_filename", .text settings.templateFilename),
    ("placeholder", .text settings.placeholder),
    ("method_style", .text settings.methodStyle.name),
    ("pluralizer", .text settings.pluralizer.name),
    ("plural_overrides", overridesValue settings.pluralOverrides),
    ("include_tables", tablesValue settings.includeTables),
    ("exclude_tables", tablesValue settings.excludeTables),
    ("delete_wait_timeout", .float settings.deleteWaitTimeout),
    ("format_code", .bool settings.formatCode)]

/-- The settings as a mapping. -/
def toValue
    (settings : Settings) : Value :=
  .map (settings.fields.map fun (name, value) => (.text name, value))

def get?
    (settings : Settings)
    (name : String) : Option Value :=
  settings.fields.lookup name

end Settings

end Tablewright
