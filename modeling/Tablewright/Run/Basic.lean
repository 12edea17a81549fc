import Tablewright.Document.Fault
import Tablewright.Files.Tree
import Tablewright.Log
import Tablewright.Naming.Forms
import Tablewright.Report
import Tablewright.Settings.Validation
import Tablewright.Text.Lines
import Tablewright.Text.Utf8

/-!
# Runs

A run works on a tree of files and logs what it does. When it fails, what it has written and logged
until then stays.
-/

namespace Tablewright.Run

/-- Why a run fails. Most failures are reported; the others come from below. -/
inductive Failure where
  | report (report : Report)
  | file (failure : Files.Failure)
  | undecodable (error : Text.DecodeError)
  | interruption (interruption : Settings.Interruption)
  | scalar (fault : Document.ScalarFault)
  | naming (error : Naming.NamingError)
  /-- A path is asked for, and there is none. -/
  | noPath
  deriving Repr

/-- The wording of a failure. -/
def Failure.message : Failure → String
  | .report told => told.render
  | .file reason => reason.message
  | .undecodable error => error.message
  | .interruption cause => cause.message
  | .scalar fault => fault.message
  | .naming error => error.message
  | .noPath => "expected str, bytes or os.PathLike object, not list"

/-- What becomes of a file that is to be removed. -/
inductive Unlinking where
  | works
  /-- The file is held by somebody else. -/
  | denied
  /-- The file stays, and nobody is told. -/
  | ignored
  deriving Repr, DecidableEq

/-- Where a run takes place. -/
structure Surroundings where
  workingDirectory : Files.Place
  unlinking : Unlinking
  deriving Repr

/-- What a run leaves behind. -/
structure State where
  tree : Files.Tree
  log : List LogRecord
  deriving Repr

end Run

/-- A step of a run. -/
abbrev Run := ReaderT Run.Surroundings (ExceptT Run.Failure (StateM Run.State))

namespace Run

/-- Runs a step from a tree with an empty log. -/
def perform
    {α : Type}
    (step : Run α)
    (surroundings : Surroundings)
    (tree : Files.Tree) : Except Failure α × State :=
  (step.run surroundings).run.run ⟨tree, []⟩

/-- Logs records. -/
def log
    (records : List LogRecord) : Run Unit :=
  modify fun state => { state with log := state.log ++ records }

/-- Ends a run with a report. -/
def fail
    {α : Type}
    (kind : ReportKind)
    (message : String)
    (place : Option String) : Run α :=
  throw (.report (Report.make kind message place [] []))

/-- Asks something of the tree of files. What goes wrong is told in another way. -/
def ask
    {α : Type}
    (question : Files.Tree → Files.Place → Except Files.Failure α)
    (failure : Files.Failure → Failure) : Run α := do
  match question (← get).tree (← read).workingDirectory with
  | .ok answer => return answer
  | .error reason => throw (failure reason)

/-- A failure of the system as a report; what is no failure of the system stays as it is. -/
def reportOfFile
    (kind : ReportKind)
    (what : String)
    (path : Files.Path)
    (failure : Files.Failure) : Failure :=
  if failure.isOfSystem then
    .report (Report.make kind (what ++ ": " ++ failure.message) (some path.text) [] [])
  else .file failure

/-- Whether there is something where a path leads to. -/
def exists?
    (path : Files.Path) : Run Bool := do
  return (← ask (·.status? · path) .file).isSome

/-- Changes the tree of files. What goes wrong is told in another way. -/
def change
    (action : Files.Tree → Files.Place → Except Files.Failure Files.Tree)
    (failure : Files.Failure → Failure) : Run Unit := do
  let tree ← ask action failure
  modify fun state => { state with tree := tree }

/-- Makes a directory with all that are missing on the way to it. -/
def ensureDirectories
    (path : Files.Path)
    (failure : Files.Failure → Failure) : Run Unit := do
  let (tree, failed?) := (← get).tree.ensureDirectories (← read).workingDirectory path
  modify fun state => { state with tree := tree }
  match failed? with
  | some reason => throw (failure reason)
  | none => return ()

/-- The text of a file, with its line ends unified. -/
def readText
    (path : Files.Path)
    (failure : Files.Failure → Failure) : Run String := do
  let content ← ask (·.readFile · path) failure
  match Text.decode content with
  | .ok text => return String.ofList (Text.unifyLineEnds text.toList)
  | .error error => throw (.undecodable error)

end Run

end Tablewright
