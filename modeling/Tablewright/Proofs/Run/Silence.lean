import Tablewright.Proofs.Run.Outcome
import Tablewright.Run.Generation
import Tablewright.Run.Settings

/-!
# Steps that do not mind the log

No step of a run looks at what was logged before it. So what a run comes to, and the tree that it
leaves behind, do not depend on how much was logged when it began.
-/

namespace Tablewright.Run

open Files (Path)

variable {α β : Type}

/-- What a step comes to, and the tree that it leaves behind. -/
def effect
    (step : Run α)
    (surroundings : Surroundings)
    (state : State) : Except Failure α × Files.Tree :=
  ((outcome step surroundings state).1, (outcome step surroundings state).2.tree)

theorem effect_get_bind
    (next : State → Run α)
    (surroundings : Surroundings)
    (state : State) :
    effect (MonadState.get >>= next) surroundings state =
      effect (next state) surroundings state :=
  rfl

theorem effect_read_bind
    (next : Surroundings → Run α)
    (surroundings : Surroundings)
    (state : State) :
    effect (MonadReader.read >>= next) surroundings state =
      effect (next surroundings) surroundings state :=
  rfl

/-- A step whose effect does not depend on what was logged before it. -/
def IgnoresLog
    (step : Run α) : Prop :=
  ∀ surroundings tree log other,
    effect step surroundings ⟨tree, log⟩ = effect step surroundings ⟨tree, other⟩

namespace IgnoresLog

theorem bind
    {step : Run α}
    {next : α → Run β}
    (first : IgnoresLog step)
    (second : ∀ value, IgnoresLog (next value)) :
    IgnoresLog (step >>= next) := by
  intro surroundings tree log other
  have same := first surroundings tree log other
  unfold effect at same ⊢
  rw [outcome_bind, outcome_bind]
  cases ended : outcome step surroundings ⟨tree, log⟩ with
  | mk result between =>
      cases endedToo : outcome step surroundings ⟨tree, other⟩ with
      | mk resultToo betweenToo =>
          rw [ended, endedToo, Prod.mk.injEq] at same
          obtain ⟨sameResult, sameTree⟩ := same
          dsimp only at sameResult sameTree
          subst sameResult
          cases result with
          | error failure =>
              exact Prod.ext rfl sameTree
          | ok value =>
              obtain ⟨tree, log⟩ := between
              obtain ⟨_, other⟩ := betweenToo
              cases sameTree
              exact second value surroundings tree log other

theorem pure
    (value : α) :
    IgnoresLog (Pure.pure value : Run α) :=
  fun _ _ _ _ => rfl

theorem throw
    (failure : Failure) :
    IgnoresLog (MonadExcept.throw failure : Run α) :=
  fun _ _ _ _ => rfl

theorem read
    {next : Surroundings → Run α}
    (rest : ∀ surroundings, IgnoresLog (next surroundings)) :
    IgnoresLog (MonadReader.read >>= next) :=
  fun surroundings => rest surroundings surroundings

theorem log
    (records : List LogRecord) :
    IgnoresLog (log records) :=
  fun _ _ _ _ => rfl

/-- A question is asked of the tree and the working directory only. -/
theorem ask
    (question : Files.Tree → Files.Place → Except Files.Failure α)
    (failure : Files.Failure → Failure) :
    IgnoresLog (ask question failure) := by
  intro surroundings tree log other
  unfold Run.ask
  rw [effect_get_bind, effect_read_bind, effect_get_bind, effect_read_bind]
  dsimp only
  cases question tree surroundings.workingDirectory <;> rfl

/-- A change is made of the tree and the working directory only. -/
theorem change
    (action : Files.Tree → Files.Place → Except Files.Failure Files.Tree)
    (failure : Files.Failure → Failure) :
    IgnoresLog (change action failure) := by
  unfold Run.change
  exact (ask action failure).bind fun tree _ _ _ _ => rfl

theorem ensureDirectories
    (path : Path)
    (failure : Files.Failure → Failure) :
    IgnoresLog (ensureDirectories path failure) := by
  intro surroundings tree log other
  unfold Run.ensureDirectories
  rw [effect_get_bind, effect_read_bind, effect_get_bind, effect_read_bind]
  dsimp only
  cases tree.ensureDirectories surroundings.workingDirectory path with
  | mk made failed? =>
      cases failed? <;> rfl

theorem unlink
    (path : Path) :
    IgnoresLog (unlink path) := by
  rintro ⟨workingDirectory, unlinking⟩ tree log other
  cases unlinking with
  | denied | ignored =>
      rfl
  | works =>
      unfold Run.unlink
      rw [effect_read_bind, effect_read_bind]
      dsimp only
      rw [effect_get_bind, effect_read_bind, effect_get_bind, effect_read_bind]
      dsimp only
      cases tree.removeFile workingDirectory path <;> rfl

theorem exists?
    (path : Path) :
    IgnoresLog (exists? path) :=
  (ask _ _).bind fun _ => pure _

theorem readText
    (path : Path)
    (failure : Files.Failure → Failure) :
    IgnoresLog (readText path failure) := by
  refine (ask _ _).bind fun content => ?_
  split
  · exact pure _
  · exact throw _

theorem resolve
    (path : Path) :
    IgnoresLog (resolve path) := by
  unfold Run.resolve
  split
  · exact throw _
  · exact read fun _ => pure _

/-! ## Settings -/

theorem readSettingsText
    (path : Path) :
    IgnoresLog (readSettingsText path) := by
  refine (ask _ _).bind fun content => ?_
  split
  · exact pure _
  · exact throw _

theorem readSettings
    (file : String) :
    IgnoresLog (readSettings file) := by
  refine (ask _ _).bind fun found? => ?_
  split
  · refine (readSettingsText _).bind fun text => ?_
    split
    · exact throw _
    · exact throw _
    · exact (log _).bind fun _ => pure _
    · exact (log _).bind fun _ => pure _
    · exact (log _).bind fun _ => pure _
    · exact throw _
  · exact throw _

theorem checkSettings
    (file? : Option String)
    (value : Value) :
    IgnoresLog (checkSettings file? value) := by
  unfold Run.checkSettings
  split
  · exact (log _).bind fun _ => pure _
  · exact throw _
  · exact throw _

theorem loadSettings
    (file? : Option String) :
    IgnoresLog (loadSettings file?) := by
  unfold Run.loadSettings
  split
  · exact checkSettings _ _
  · split
    · exact checkSettings _ _
    · exact (readSettings _).bind fun _ => checkSettings _ _

/-! ## Generation -/

theorem ensureTemplate
    (path : Path)
    (className placeholder : String) :
    IgnoresLog (ensureTemplate path className placeholder) := by
  refine (exists? path).bind fun present => ?_
  split
  · exact (log _).bind fun _ => pure _
  · refine (ensureDirectories _ _).bind fun _ => ?_
    refine (change _ _).bind fun _ => ?_
    exact (log _).bind fun _ => pure _

theorem readTemplate
    (path : Path)
    (placeholder : String) :
    IgnoresLog (readTemplate path placeholder) :=
  (readText _ _).bind fun _ => (log _).bind fun _ => pure _

theorem selectTables
    (path : Path)
    (selection : Schema.Selection) :
    IgnoresLog (selectTables path selection) := by
  refine (ask _ _).bind fun content => ?_
  refine (log _).bind fun _ => ?_
  refine (log _).bind fun _ => ?_
  refine (log _).bind fun _ => ?_
  exact (log _).bind fun _ => pure _

theorem removeOutput
    (path : Path)
    (timeout : Value) :
    IgnoresLog (removeOutput path timeout) := by
  refine (exists? path).bind fun present => ?_
  split
  · refine (unlink path).bind fun failure? => ?_
    split
    · exact log _
    · refine ((exists? path).bind fun _ => pure _).bind fun gone => ?_
      split
      · exact log _
      · exact log _
  · exact pure _

theorem writeOutput
    (path : Path)
    (content : String)
    (timeout : Value) :
    IgnoresLog (writeOutput path content timeout) := by
  have replaces :
      IgnoresLog
        (Run.removeOutput path timeout >>= fun _ =>
          Run.change (·.writeFile · path (Text.encode content))
            (reportOfFile .output "Could not write output file" path)) :=
    (removeOutput path timeout).bind fun _ => change _ _
  refine (exists? path.parent).bind fun present => ?_
  dsimp only
  split
  · exact (ensureDirectories _ _).bind fun _ => (log _).bind fun _ => replaces
  · exact replaces

theorem warnOfNoTables
    (tables : List String) :
    IgnoresLog (warnOfNoTables tables) := by
  unfold Run.warnOfNoTables
  split
  · exact log _
  · exact pure _

theorem blocksOfTables
    (plan : Methods.NamingPlan)
    (tables : List String) :
    IgnoresLog (blocksOfTables plan tables) := by
  refine (log _).bind fun _ => ?_
  split
  · exact pure _
  · exact throw _

theorem finishModule
    (settings : Settings)
    (path : Path)
    (content : String) :
    IgnoresLog (finishModule settings path content) := by
  unfold Run.finishModule layOut
  split
  · split
    · exact (log _).bind fun _ => pure _
    · exact (log _).bind fun _ => pure _
  · exact pure _

theorem generateFrom
    (template schema output : Path)
    (settings : Settings) :
    IgnoresLog (generateFrom template schema output settings) := by
  refine (ensureTemplate _ _ _).bind fun _ => ?_
  refine (selectTables _ _).bind fun tables => ?_
  refine (warnOfNoTables tables).bind fun _ => ?_
  refine (blocksOfTables _ tables).bind fun blocks => ?_
  refine (readTemplate _ _).bind fun content => ?_
  refine (finishModule settings _ _).bind fun _ => ?_
  refine (writeOutput _ _ _).bind fun _ => ?_
  exact (log _).bind fun _ => pure _

theorem generate
    (schema output : Path)
    (settings : Settings) :
    IgnoresLog (generate schema output settings) := by
  refine (resolve schema).bind fun _ => ?_
  refine (resolve output).bind fun _ => ?_
  dsimp only
  split
  · exact throw _
  · exact generateFrom _ _ _ settings

end IgnoresLog

end Tablewright.Run
