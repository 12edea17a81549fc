import Tablewright.CommandLine.Session
import Tablewright.Proofs.Run.Silence

/-!
# What sessions come to

A session does on files what loading its settings and generating its module do one after the other,
and its status says whether both succeed. What it logs and where its console leads have no part in
that.
-/

namespace Tablewright.CommandLine

open Run (IgnoresLog effect outcome outcome_bind perform)

/-- Loading settings and generating a module, without anything being said. -/
def quietWork
    (arguments : Arguments) : Run Run.Generated := do
  let settings ← Run.loadSettings arguments.config
  generateFor arguments settings

/-- With a text for each operand, generating for operands is generating for their paths. -/
theorem generateFor_of_texts
    (schema output : String)
    (config : Option String)
    (verbose noColor : Bool)
    (settings : Settings) :
    generateFor ⟨some schema, some output, config, verbose, noColor⟩ settings =
      Run.generate (Files.Path.ofText schema) (Files.Path.ofText output) settings := by
  simp [generateFor, pathOfOperand]

theorem ignoresLog_pathOfOperand
    (operand : Option String) :
    IgnoresLog (pathOfOperand operand) := by
  cases operand with
  | none =>
      exact .throw _
  | some text =>
      exact .pure _

theorem ignoresLog_generateFor
    (arguments : Arguments)
    (settings : Settings) :
    IgnoresLog (generateFor arguments settings) := by
  refine (ignoresLog_pathOfOperand _).bind fun schema => ?_
  have generates :
      IgnoresLog
        (pathOfOperand arguments.output >>= fun output =>
          Run.generate schema output settings) :=
    (ignoresLog_pathOfOperand _).bind fun output => .generate schema output settings
  dsimp only
  split
  · exact (IgnoresLog.resolve schema).bind fun _ => generates
  · exact generates

section Effects

variable {α β : Type}
variable {surroundings : Run.Surroundings}

/-- The effect of a step and what follows it. -/
theorem effect_bind
    (step : Run α)
    (next : α → Run β)
    (state : Run.State) :
    effect (step >>= next) surroundings state =
      match outcome step surroundings state with
      | (.ok value, between) => effect (next value) surroundings between
      | (.error failure, between) => (.error failure, between.tree) := by
  unfold effect
  rw [outcome_bind]
  cases outcome step surroundings state with
  | mk result between =>
      cases result <;> rfl

/-- Logging at the end of a step leaves its effect but for the value. -/
theorem effect_bind_log
    (step : Run α)
    (records : α → List LogRecord)
    (state : Run.State) :
    effect (step >>= fun value => Run.log (records value)) surroundings state =
      ((effect step surroundings state).1.map fun _ => (),
        (effect step surroundings state).2) := by
  rw [effect_bind, effect]
  cases outcome step surroundings state with
  | mk result between =>
      cases result <;> rfl

/-- Logging at the beginning of a step that ignores the log leaves its effect. -/
theorem effect_log_bind
    {next : Unit → Run α}
    (ignores : IgnoresLog (next ()))
    (records : List LogRecord)
    (tree : Files.Tree)
    (log other : List LogRecord) :
    effect (Run.log records >>= next) surroundings ⟨tree, log⟩ =
      effect (next ()) surroundings ⟨tree, other⟩ :=
  ignores surroundings tree (log ++ records) other

/-- What is left of the work of a session once its settings are loaded. -/
private def workWith
    (arguments : Arguments)
    (settings : Settings) : Run Unit := do
  Run.log [.debug ("Effective configuration: " ++ settings.toValue.quote)]
  Run.log (Console.heading "API Class Generation")
  Run.log [Console.progress ("Generating data-access class from " ++
    arguments.schema.getD "[]" ++ "...")]
  Run.log (successLog (← generateFor arguments settings))

private theorem ignoresLog_workWith
    (arguments : Arguments)
    (settings : Settings) :
    IgnoresLog (workWith arguments settings) := by
  refine (IgnoresLog.log _).bind fun _ => ?_
  refine (IgnoresLog.log _).bind fun _ => ?_
  refine (IgnoresLog.log _).bind fun _ => ?_
  exact (ignoresLog_generateFor arguments settings).bind fun _ => .log _

private theorem effect_workWith
    (arguments : Arguments)
    (settings : Settings)
    (state : Run.State) :
    effect (workWith arguments settings) surroundings state =
      ((effect (generateFor arguments settings) surroundings state).1.map fun _ => (),
        (effect (generateFor arguments settings) surroundings state).2) := by
  have last :
      IgnoresLog (generateFor arguments settings >>= fun generated =>
        Run.log (successLog generated)) :=
    (ignoresLog_generateFor arguments settings).bind fun _ => .log _
  have third := (IgnoresLog.log
    [Console.progress ("Generating data-access class from " ++
      arguments.schema.getD "[]" ++ "...")]).bind fun _ => last
  have second := (IgnoresLog.log (Console.heading "API Class Generation")).bind fun _ => third
  unfold workWith
  rw [effect_log_bind second _ state.tree state.log state.log,
    effect_log_bind third _ state.tree state.log state.log,
    effect_log_bind last _ state.tree state.log state.log]
  exact effect_bind_log _ successLog state

/-- The work of a session has the effect of the quiet work, whatever was logged before. -/
theorem effect_work
    (arguments : Arguments)
    (tree : Files.Tree)
    (log : List LogRecord) :
    effect (work arguments) surroundings ⟨tree, log⟩ =
      ((effect (quietWork arguments) surroundings ⟨tree, []⟩).1.map fun _ => (),
        (effect (quietWork arguments) surroundings ⟨tree, []⟩).2) := by
  have loads :
      IgnoresLog (Run.loadSettings arguments.config >>= workWith arguments) :=
    (IgnoresLog.loadSettings _).bind (ignoresLog_workWith arguments)
  have begins :=
    (IgnoresLog.log [Console.progress "Loading configuration..."]).bind fun _ => loads
  have quiet :
      effect (Run.loadSettings arguments.config >>= workWith arguments) surroundings ⟨tree, []⟩ =
        ((effect (quietWork arguments) surroundings ⟨tree, []⟩).1.map fun _ => (),
          (effect (quietWork arguments) surroundings ⟨tree, []⟩).2) := by
    rw [quietWork, effect_bind, effect_bind]
    cases outcome (Run.loadSettings arguments.config) surroundings ⟨tree, []⟩ with
    | mk result between =>
        cases result with
        | ok settings =>
            exact effect_workWith arguments settings between
        | error failure =>
            rfl
  rw [← quiet]
  unfold work
  split
  · rw [effect_log_bind begins _ tree log []]
    exact effect_log_bind loads _ tree [] []
  · exact effect_log_bind loads _ tree log []

end Effects

/-- What a run comes to for a session: the status, which is zero if the run succeeds and else one,
and the tree that it leaves behind. -/
def ending
    {α : Type} : Except Run.Failure α × Run.State → Nat × Files.Tree
  | (.error _, final) => (1, final.tree)
  | (.ok _, final) => (0, final.tree)

/-- A session for arguments comes to what its quiet work comes to. -/
theorem carryOut_eq
    (arguments : Arguments)
    (terminal : Bool)
    (surroundings : Run.Surroundings)
    (tree : Files.Tree) :
    ((carryOut arguments terminal surroundings tree).1.status,
        (carryOut arguments terminal surroundings tree).2) =
      ending (perform (quietWork arguments) surroundings tree) := by
  have same :
      effect (work arguments) surroundings ⟨tree, []⟩ =
        ((effect (quietWork arguments) surroundings ⟨tree, []⟩).1.map fun _ => (),
          (effect (quietWork arguments) surroundings ⟨tree, []⟩).2) :=
    effect_work arguments tree []
  unfold effect at same
  unfold carryOut
  rw [Run.perform_eq_outcome, Run.perform_eq_outcome]
  cases worked : outcome (work arguments) surroundings ⟨tree, []⟩ with
  | mk result final =>
      cases quieted : outcome (quietWork arguments) surroundings ⟨tree, []⟩ with
      | mk quietResult quietFinal =>
          rw [worked, quieted, Prod.mk.injEq] at same
          obtain ⟨sameResult, sameTree⟩ := same
          cases result with
          | ok value =>
              cases quietResult with
              | ok generated =>
                  exact Prod.ext rfl sameTree
              | error failure =>
                  cases sameResult
          | error failure =>
              cases quietResult with
              | ok generated =>
                  cases sameResult
              | error failure =>
                  exact Prod.ext rfl sameTree

/-- Loading settings and then generating with them, as two runs of their own. -/
def loadThenGenerate
    (arguments : Arguments)
    (surroundings : Run.Surroundings)
    (tree : Files.Tree) : Nat × Files.Tree :=
  match perform (Run.loadSettings arguments.config) surroundings tree with
  | (.error _, loaded) => (1, loaded.tree)
  | (.ok settings, loaded) =>
      ending (perform (generateFor arguments settings) surroundings loaded.tree)

/-- A step that starts afresh from a tree comes to what it comes to with a log. -/
theorem ending_afresh
    {α : Type}
    {step : Run α}
    (ignores : IgnoresLog step)
    (surroundings : Run.Surroundings)
    (state : Run.State) :
    ending (outcome step surroundings ⟨state.tree, []⟩) =
      ending (outcome step surroundings state) := by
  have same : effect step surroundings ⟨state.tree, []⟩ = effect step surroundings state :=
    ignores surroundings state.tree [] state.log
  unfold effect at same
  cases afresh : outcome step surroundings ⟨state.tree, []⟩ with
  | mk result final =>
      cases further : outcome step surroundings state with
      | mk otherResult otherFinal =>
          rw [afresh, further, Prod.mk.injEq] at same
          obtain ⟨rfl, sameTree⟩ := same
          cases result <;> exact Prod.ext rfl sameTree

/-- The quiet work comes to what the two runs come to. -/
theorem loadThenGenerate_eq
    (arguments : Arguments)
    (surroundings : Run.Surroundings)
    (tree : Files.Tree) :
    loadThenGenerate arguments surroundings tree =
      ending (perform (quietWork arguments) surroundings tree) := by
  unfold loadThenGenerate quietWork
  rw [Run.perform_eq_outcome, Run.perform_eq_outcome, outcome_bind]
  cases outcome (Run.loadSettings arguments.config) surroundings ⟨tree, []⟩ with
  | mk result loaded =>
      cases result with
      | error failure =>
          rfl
      | ok settings =>
          exact ending_afresh (ignoresLog_generateFor arguments settings) surroundings loaded

/-- How much is said, and in what colour, is no part of the two runs. -/
theorem loadThenGenerate_congr
    {arguments other : Arguments}
    (schema : arguments.schema = other.schema)
    (output : arguments.output = other.output)
    (config : arguments.config = other.config) :
    loadThenGenerate arguments = loadThenGenerate other := by
  unfold loadThenGenerate generateFor
  rw [schema, output, config]

end Tablewright.CommandLine
