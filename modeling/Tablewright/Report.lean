import Tablewright.Value.Text

/-!
# Reports of failures

A failure of the generator is reported with a message, a code for its kind, what is known about
the place where it arose, and suggestions for what to do about it. Each kind has suggestions of its
own, which stand in when a report comes without any.
-/

namespace Tablewright

/-- The kinds of failures that are reported. -/
inductive ReportKind where
  | general
  | configuration
  | schema
  | template
  | generation
  | output
  deriving Repr, DecidableEq

namespace ReportKind

/-- The code that stands for the kind. -/
def code? : ReportKind → Option String
  | .general => none
  | .configuration => some "CONFIG_ERROR"
  | .schema => some "SCHEMA_PARSE_ERROR"
  | .template => some "TEMPLATE_ERROR"
  | .generation => some "CODE_GENERATION_ERROR"
  | .output => some "OUTPUT_WRITE_ERROR"

/-- What the place of such a failure is called in its context. -/
def place? : ReportKind → Option String
  | .general => none
  | .configuration => some "config_file"
  | .schema => some "schema_file"
  | .template => some "template_file"
  | .generation => some "table"
  | .output => some "output_file"

/-- What to do about such a failure. -/
def suggestions : ReportKind → List String
  | .general => []
  | .configuration =>
      ["Check the configuration file syntax", "Verify option names and value types",
        "Make sure the output path is not the template path"]
  | .schema =>
      ["Check that the schema file exists and is readable",
        "Regenerate it with 'supabase gen types typescript'"]
  | .template =>
      ["Check write permissions on the output directory",
        "Delete a corrupted template file to have it recreated"]
  | .generation =>
      ["Check the table name for characters that are not valid in Python names",
        "Exclude the table with 'exclude_tables' in the configuration"]
  | .output =>
      ["Check write permissions on the output directory",
        "Make sure no other process holds the output file open"]

/-- The name of the kind in messages. -/
def name : ReportKind → String
  | .general => "SupabaseApiGenError"
  | .configuration => "ConfigurationError"
  | .schema => "SchemaParseError"
  | .template => "TemplateError"
  | .generation => "CodeGenerationError"
  | .output => "OutputWriteError"

def ofName?
    (name : String) : Option ReportKind :=
  [ReportKind.general, .configuration, .schema, .template, .generation, .output].find? fun kind =>
    kind.name = name

end ReportKind

/-- A failure with what is known about it. -/
structure Report where
  kind : ReportKind
  message : String
  context : List (String × Value)
  suggestions : List String
  code : Option String
  deriving Repr

namespace Report

/-- The context with an entry set: in place if it is there, else at the end. -/
def setContext
    (key : String)
    (value : Value) : List (String × Value) → List (String × Value)
  | [] => [(key, value)]
  | (other, old) :: rest =>
      if other = key then (other, value) :: rest else (other, old) :: setContext key value rest

/-- The context with the place of the failure, unless that is unknown or empty. -/
def withPlace
    (kind : ReportKind)
    (place : Option String)
    (context : List (String × Value)) : List (String × Value) :=
  match kind.place?, place with
  | some key, some text => if text = "" then context else setContext key (.text text) context
  | _, _ => context

/-- A report of a kind of failure; without suggestions it has those of its kind. -/
def make
    (kind : ReportKind)
    (message : String)
    (place : Option String)
    (context : List (String × Value))
    (suggestions : List String) : Report where
  kind := kind
  message := message
  context := withPlace kind place context
  suggestions := if suggestions.isEmpty then kind.suggestions else suggestions
  code := kind.code?

def lines
    (report : Report) : List String :=
  [report.message] ++
    (match report.code with
      | some code => if code = "" then [] else ["Error Code: " ++ code]
      | none => []) ++
    (if report.context.isEmpty then [] else
      "Context:" :: report.context.map fun (key, value) => "  " ++ key ++ ": " ++ value.display) ++
    (if report.suggestions.isEmpty then [] else
      "Suggestions:" :: report.suggestions.map fun suggestion => "  • " ++ suggestion)

/-- The text of a report. -/
def render
    (report : Report) : String :=
  String.intercalate "\n" report.lines

end Report

end Tablewright
