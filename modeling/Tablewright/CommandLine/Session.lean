import Tablewright.CommandLine.Arguments
import Tablewright.CommandLine.Usage
import Tablewright.Console.Logging
import Tablewright.Run.Generation
import Tablewright.Run.Settings

/-!
# Sessions of the command line

A session follows a command line: it loads settings, generates a module and says on the console what
it does. It ends with status zero if that, or a request for help, was done, and else with status one.
-/

namespace Tablewright.CommandLine

open Files (Path)

/-- What a session leaves besides files. -/
structure Outcome where
  status : Nat
  output : String
  diagnostics : String
  deriving Repr, DecidableEq

def pathOfOperand
    (operand : Option String) : Run Path := do
  match operand with
  | some text => return Path.ofText text
  | none => throw .noPath

/-- Generates a module for operands. The schema is looked for before the output. -/
def generateFor
    (arguments : Arguments)
    (settings : Settings) : Run Run.Generated := do
  let schema ← pathOfOperand arguments.schema
  if arguments.output.isNone then let _ ← Run.resolve schema
  let output ← pathOfOperand arguments.output
  Run.generate schema output settings

/-- What is logged of a module that was generated. -/
def successLog
    (generated : Run.Generated) : List LogRecord :=
  (if generated.templateCreated then
    [Console.highlight ("New template created at " ++ generated.templatePath.text)] else []) ++
  [Console.success ("Wrote " ++ toString generated.methodCount ++ " methods for " ++
    toString generated.tables.length ++ " tables (" ++ toString generated.lineCount ++
    " lines) to " ++ generated.outputPath.text)]

/-- The work of a session. -/
def work
    (arguments : Arguments) : Run Unit := do
  if arguments.verbose then
    Run.log [.debug "Verbose mode enabled. DEBUG level logging activated."]
  Run.log [Console.progress "Loading configuration..."]
  let settings ← Run.loadSettings arguments.config
  Run.log [.debug ("Effective configuration: " ++ settings.toValue.quote)]
  Run.log (Console.heading "API Class Generation")
  Run.log [Console.progress ("Generating data-access class from " ++
    arguments.schema.getD "[]" ++ "...")]
  Run.log (successLog (← generateFor arguments settings))

/-- What is logged of a failure. -/
def failureMessage : Run.Failure → String
  | .report report => report.kind.name ++ ": " ++ report.render
  | .file failure =>
      if failure.isOfSystem then "File Error: " ++ failure.message
      else "An unexpected error occurred during generation: " ++ failure.message
  | failure => "An unexpected error occurred during generation: " ++ failure.message

/-- Whether a failure is one that users are expected to meet. -/
def isExpected : Run.Failure → Bool
  | .report _ => true
  | .file failure => failure.isOfSystem
  | _ => false

/-- The console of a session. -/
def consoleFor
    (arguments : Arguments)
    (terminal : Bool) : Console.Logging :=
  Console.Logging.setUp (if arguments.verbose then LogLevel.debug else LogLevel.info)
    (!arguments.noColor) terminal .silent

/-- What is written of a failure. Details follow it when they were asked for, and when the failure was
not expected. The text ends where the details would begin. -/
def writeFailure
    (console : Console.Logging)
    (detailed : Bool)
    (failure : Run.Failure) : String :=
  let record := LogRecord.error (failureMessage failure)
  if detailed || !isExpected failure then console.writeOpen record else console.write record

/-- Carries out a session for arguments. -/
def carryOut
    (arguments : Arguments)
    (terminal : Bool)
    (surroundings : Run.Surroundings)
    (tree : Files.Tree) : Outcome × Files.Tree :=
  let console := consoleFor arguments terminal
  let (result, state) := (work arguments).perform surroundings tree
  let written := console.writeAll state.log
  match result with
  | .ok () => (⟨0, "", written⟩, state.tree)
  | .error failure =>
      (⟨1, "", written ++ writeFailure console arguments.verbose failure⟩, state.tree)

def follow
    (words : List String)
    (terminal : Bool)
    (surroundings : Run.Surroundings)
    (tree : Files.Tree) : Outcome × Files.Tree :=
  match Request.ofTexts words with
  | .error misuse =>
      (⟨1, "", usage ++ programName ++ ": error: " ++ misuse.message ++ "\n"⟩, tree)
  | .ok .help => (⟨0, help, ""⟩, tree)
  | .ok (.run arguments) => carryOut arguments terminal surroundings tree

end Tablewright.CommandLine
