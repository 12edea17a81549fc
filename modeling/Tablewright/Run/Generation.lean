import Tablewright.Layout.Format
import Tablewright.Methods.Catalogue
import Tablewright.Run.Output
import Tablewright.Run.Schema
import Tablewright.Run.Template

/-!
# Generation

A run makes sure that there is a template, reads the tables of a schema, puts their methods at the
marker of the template and writes the result.
-/

namespace Tablewright.Run

open Files (Path)
open Methods (MethodBlock NamingPlan)

/-- What a run has done. -/
structure Generated where
  tables : List String
  outputPath : Path
  templatePath : Path
  templateCreated : Bool
  isFormatted : Bool
  lineCount : Nat
  methodCount : Nat
  deriving Repr

/-- The path from the root to the place where a path leads. -/
def resolve
    (path : Path) : Run Path := do
  if path.names.any fun name => name.toList.contains '\x00' then
    throw (.file ⟨.nullCharacter, path⟩)
  else return path.resolve (← read).workingDirectory

/-- The report of an output that is to stand where the template is. -/
def clashOfPaths
    (output template : Path) : Report :=
  Report.make .configuration "Output file would overwrite the template file" none
    [("output_file", .text output.text), ("template_file", .text template.text)]
    ["Choose a different output file name or template_filename"]

/-- The naming of tables that settings ask for. -/
def namingPlan
    (settings : Settings) : NamingPlan :=
  ⟨settings.overrideTable, settings.pluralizer, settings.methodStyle⟩

/-- The failure of a table that gets no block. -/
def failureOfBlock
    (failure : Methods.BlockFailure) : Failure :=
  match failure.fault with
  | .naming error => .naming error
  | .name fault => .report (fault.report failure.table)
  | .clash owner method => .report (Methods.clashReport owner failure.table method)

def blocksOfTables
    (plan : NamingPlan)
    (tables : List String) : Run (List MethodBlock) := do
  log (Methods.blocksLog plan tables)
  match Methods.blocksOf plan tables with
  | .ok blocks => return blocks
  | .error failure => throw (failureOfBlock failure)

/-- Lays out a generated module. One that cannot be laid out is left as it is. -/
def layOut
    (path : Path)
    (content : String) : Run (String × Bool) := do
  match Layout.format content with
  | .ok formatted =>
      log [.debug ("Formatted code using Black: " ++ path.text)]
      return (formatted, true)
  | .error fault =>
      log [.error ("Could not format Python code using Black: " ++ fault.message),
        .warning "Writing unformatted Python code due to Black error."]
      return (content, false)

/-- Warns of a schema without tables. -/
def warnOfNoTables
    (tables : List String) : Run Unit :=
  if tables.isEmpty then
    log [.warning
      "No tables found under 'Tables'; generating the template without table methods."]
  else return ()

/-- Lays out a generated module if settings ask for it, and says whether it is laid out. -/
def finishModule
    (settings : Settings)
    (path : Path)
    (content : String) : Run (String × Bool) :=
  if settings.formatCode then layOut path content else return (content, false)

/-- Logs what has been generated. -/
def logGenerated
    (output : Path)
    (tables : List String) : Run Unit :=
  log <|
    [.info ("Successfully generated " ++ output.name ++ " with methods for " ++
      toString tables.length ++ " tables!")] ++
    if tables.isEmpty then [] else [.info ("Tables: " ++ String.intercalate ", " tables)]

/-- Generates the module of a schema from a template beside it. -/
def generateFrom
    (template schema output : Path)
    (settings : Settings) : Run Generated := do
  let templateCreated ← ensureTemplate template settings.className settings.placeholder
  let tables ← selectTables schema settings.selection
  warnOfNoTables tables
  let blocks ← blocksOfTables (namingPlan settings) tables
  let content ← readTemplate template settings.placeholder
  let (content, isFormatted) ← finishModule settings output
    (Text.replaceFirst settings.placeholder (MethodBlock.joinCode blocks) content)
  writeOutput output content (.float settings.deleteWaitTimeout)
  logGenerated output tables
  return {
    tables := tables
    outputPath := output
    templatePath := template
    templateCreated := templateCreated
    isFormatted := isFormatted
    lineCount := Text.countLines content
    methodCount := (blocks.flatMap MethodBlock.forwarders).length }

/-- Generates the module of a schema. -/
def generate
    (schema output : Path)
    (settings : Settings) : Run Generated := do
  let schema ← resolve schema
  let output ← resolve output
  let template := Files.templatePath output settings.templateFilename
  if template = output then throw (.report (clashOfPaths output template))
  else generateFrom template schema output settings

end Tablewright.Run
