import Tablewright.Files.Path
import Tablewright.Log
import Tablewright.Report
import Tablewright.Settings.Basic
import Tablewright.Settings.Scalar
import Tablewright.Text.Blank
import Tablewright.Text.Identifier

/-!
# Validation of settings

Settings are made from a mapping. All options are looked at in the order in which they are declared,
and everything that is wrong is collected with its place. Only a list of tables that is no list of
texts ends the validation at once.
-/

namespace Tablewright.Settings

open Methods (MethodStyle)
open Naming (Inflection Overrides Pluralizer)

/-- Something that is wrong, and the names that lead to it. -/
structure Problem where
  place : List String
  message : String
  deriving Repr, DecidableEq

/-- What ends a validation at once. -/
inductive Interruption where
  | notAList
  | itemNotText (index : Nat) (kind : String)
  deriving Repr, DecidableEq

/-- The wording of an interruption. -/
def Interruption.message : Interruption → String
  | .notAList => "include_tables/exclude_tables must be a list."
  | .itemNotText index kind =>
      "Item at index " ++ toString index ++ " must be a string, found: " ++ kind

/-- What came of looking at an option: a value, or what is wrong with it. -/
abbrev Checked (α : Type) := Except (List Problem) α

/-- A single problem at a place. -/
def problem
    {α : Type}
    (place : List String)
    (message : String) : Checked α :=
  .error [⟨place, message⟩]

/-- A problem that a rule of an option raises. -/
def broken
    {α : Type}
    (place : List String)
    (message : String) : Checked α :=
  problem place ("Value error, " ++ message)

/-- The problem of a value that does not fit. -/
def misfitting
    {α : Type}
    (place : List String)
    (result : Except ScalarFault α) : Checked α :=
  result.mapError fun fault => [⟨place, fault.message⟩]

/-- A text that is not empty and keeps a rule. -/
def checkText
    (place : List String)
    (rule : String → Option String)
    (value : Value) : Checked String := do
  let text ← misfitting place (textOf value)
  if text = "" then
    problem place "String should have at least 1 character"
  else
    match rule text with
    | some message => broken place message
    | none => return text

/-- The rule of class names: they have to be definable. -/
def classNameRule
    (name : String) : Option String :=
  if Text.isDefinable name then none
  else some ("'" ++ name ++ "' is not a valid Python identifier or is a reserved keyword.")

/-- The rule of names of templates: they are single names. -/
def filenameRule
    (name : String) : Option String :=
  if (Files.Path.ofText name).name = name then none
  else some ("'" ++ name ++ "' must be a file name without directory components.")

/-- The rule of markers: they are on one line, and not blank. -/
def placeholderRule
    (placeholder : String) : Option String :=
  if placeholder.toList.contains '\n' || Text.strip placeholder = "" then
    some "placeholder must be a single non-blank line."
  else none

/-- The rule of forms of table names: they can be part of a name. -/
def formRule
    (form : String) : Option String :=
  if Text.isIdentifier form then none
  else some ("'" ++ form ++ "' cannot be used inside a Python method name.")

/-- One of two words. -/
def checkChoice
    {α : Type}
    (place : List String)
    (ofName? : String → Option α)
    (choices : String)
    (value : Value) : Checked α :=
  match value with
  | .text name =>
      match ofName? name with
      | some choice => return choice
      | none => problem place ("Input should be " ++ choices)
  | _ => problem place ("Input should be " ++ choices)

/-- Two options together: what is wrong with the first comes before what is wrong with the second. -/
def both
    {α β : Type}
    (a : Checked α)
    (b : Checked β) : Checked (α × β) :=
  match a, b with
  | .ok x, .ok y => .ok (x, y)
  | .ok _, .error problems => .error problems
  | .error problems, .ok _ => .error problems
  | .error problems, .error more => .error (problems ++ more)

/-- A form of a table name that has to be given. -/
def checkForm
    (place : List String)
    (name : String)
    (entries : List (Value × Value)) : Checked String :=
  let place := place ++ [name]
  match Value.field? name entries with
  | none => problem place "Field required"
  | some value => checkText place formRule value

def checkForms
    (place : List String)
    (value : Value) : Checked Inflection :=
  match value with
  | .map entries =>
      (both (checkForm place "singular" entries) (checkForm place "plural" entries)).map
        fun (singular, plural) => ⟨singular, plural⟩
  | _ => problem place "Input should be a valid dictionary or instance of PluralOverride"

/-- A key as part of a place. -/
def keyInPlace : Value → String
  | .text s => s
  | .bool b => if b then "1" else "0"
  | key => key.quote

/-- The overrides of entries, added to others. -/
def checkOverrideEntries
    (place : List String) : Checked Overrides → List (Value × Value) → Checked Overrides
  | checked, [] => checked
  | checked, (key, value) :: rest =>
      let here := place ++ [keyInPlace key]
      let table := misfitting (here ++ ["[key]"]) (textOf key)
      let entry := both table (checkForms here value)
      let extended :=
        (both checked entry).map fun (overrides, table, forms) => overrides.set table forms
      checkOverrideEntries place extended rest

/-- The forms of tables. -/
def checkOverrides
    (place : List String)
    (value : Value) : Checked Overrides :=
  match value with
  | .map entries => checkOverrideEntries place (.ok []) entries
  | _ => problem place "Input should be a valid dictionary"

/-- Names of tables, each of which is stripped and has to be something then. -/
def checkTableItems
    (place : List String)
    (index : Nat) : List Value → Except Interruption (Checked (List String))
  | [] => .ok (.ok [])
  | .text s :: rest =>
      let name := Text.strip s
      if name = "" then
        .ok (broken place
          ("Item at index " ++ toString index ++ " cannot be empty or just whitespace."))
      else
        (checkTableItems place (index + 1) rest).map fun names => names.map (name :: ·)
  | item :: _ => .error (.itemNotText index item.kindName)

/-- A list of tables, or nothing. -/
def checkTables
    (place : List String)
    (value : Value) : Except Interruption (Checked (Option (List String))) :=
  match value with
  | .null => .ok (.ok none)
  | .list items => (checkTableItems place 0 items).map fun names => names.map some
  | .enclosing .list => .error (.itemNotText 0 "list")
  | _ => .error .notAList

/-- A number of seconds. -/
def checkTimeout
    (place : List String)
    (value : Value) : Checked Float := do
  let seconds ← misfitting place (numberOf value)
  if 0.0 ≤ seconds then return seconds
  else problem place "Input should be greater than or equal to 0"

/-- An option that is given, or else the value of its own. -/
def checkOption
    {α : Type}
    (entries : List (Value × Value))
    (name : String)
    (standard : α)
    (check : List String → Value → Checked α) : Checked α :=
  match Value.field? name entries with
  | none => .ok standard
  | some value => check [name] value

/-- An option of tables that is given, or else nothing. -/
def checkTablesOption
    (entries : List (Value × Value))
    (name : String) : Except Interruption (Checked (Option (List String))) :=
  match Value.field? name entries with
  | none => .ok (.ok none)
  | some value => checkTables [name] value

/-- Settings from a mapping. -/
def ofEntries
    (entries : List (Value × Value)) : Except Interruption (Checked Settings) := do
  let includeTables ← checkTablesOption entries "include_tables"
  let excludeTables ← checkTablesOption entries "exclude_tables"
  let className :=
    checkOption entries "class_name" standard.className (checkText · classNameRule ·)
  let templateFilename :=
    checkOption entries "template_filename" standard.templateFilename (checkText · filenameRule ·)
  let placeholder :=
    checkOption entries "placeholder" standard.placeholder (checkText · placeholderRule ·)
  let methodStyle :=
    checkOption entries "method_style" standard.methodStyle
      (checkChoice · MethodStyle.ofName? "'camel' or 'snake'" ·)
  let pluralizer :=
    checkOption entries "pluralizer" standard.pluralizer
      (checkChoice · Pluralizer.ofName? "'suffix' or 'inflect'" ·)
  let pluralOverrides :=
    checkOption entries "plural_overrides" standard.pluralOverrides checkOverrides
  let deleteWaitTimeout :=
    checkOption entries "delete_wait_timeout" standard.deleteWaitTimeout checkTimeout
  let formatCode :=
    checkOption entries "format_code" standard.formatCode
      fun place value => misfitting place (truthOf value)
  return (both className (both templateFilename (both placeholder (both methodStyle
      (both pluralizer (both pluralOverrides (both includeTables (both excludeTables
        (both deleteWaitTimeout formatCode))))))))).map
    fun (className, templateFilename, placeholder, methodStyle, pluralizer, pluralOverrides,
        includeTables, excludeTables, deleteWaitTimeout, formatCode) =>
      ⟨className, templateFilename, placeholder, methodStyle, pluralizer, pluralOverrides,
        includeTables, excludeTables, deleteWaitTimeout, formatCode⟩

def ofValue
    (value : Value) : Except Interruption (Checked Settings) :=
  match value with
  | .map entries => ofEntries entries
  | _ => .ok (problem [] "Input should be a valid dictionary or instance of GeneratorConfig")

def Problem.placeText
    (problem : Problem) : String :=
  match problem.place with
  | [] => "Model Level"
  | names => String.intercalate " -> " names

/-- The context of a report on problems: their messages by the texts of their places. -/
def problemContext
    (problems : List Problem) : List (String × Value) :=
  problems.foldl
    (fun context problem => Report.setContext problem.placeText (.text problem.message) context) []

/-- Why settings cannot be had from a value. -/
inductive Refusal where
  | report (report : Report)
  | interruption (interruption : Interruption)
  deriving Repr

/-- The report of problems in settings, which may have come from a file. -/
def problemReport
    (file? : Option String)
    (problems : List Problem) : Report :=
  Report.make .configuration "Configuration validation failed." file? (problemContext problems) []

/-- The tables that are both included and excluded, each once and in alphabetic order. -/
def overlap
    (settings : Settings) : List String :=
  ((settings.includeTables.getD []).filter
    (settings.excludeTables.getD []).contains).eraseDups.mergeSort fun a b => decide (a ≤ b)

/-- What is logged about valid settings. -/
def validationLog
    (settings : Settings) : List LogRecord :=
  let overlap := settings.overlap
  (if overlap.isEmpty then [] else
    [.warning ("Tables listed in both include_tables and exclude_tables will be excluded: " ++
      String.intercalate ", " overlap)]) ++
  [.debug "Configuration dictionary parsed and validated successfully against schema."]

/-- Settings from a value, which may have come from a file. -/
def validate
    (file? : Option String)
    (value : Value) : Except Refusal Settings :=
  match ofValue value with
  | .error interruption => .error (.interruption interruption)
  | .ok (.error problems) => .error (.report (problemReport file? problems))
  | .ok (.ok settings) => .ok settings

end Tablewright.Settings
