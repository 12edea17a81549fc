import Tablewright.Run.Basic

/-!
# What steps of a run come to

A step that starts in a state ends with a value or with a failure, and leaves a state behind. The
rules say how the ends of steps follow from those of their parts, so that a run is followed step by
step from its beginning.
-/

namespace Tablewright.Run

open Files (Entry Path Place)

variable {α β : Type}

/-- What a step comes to, and the state that it leaves behind. -/
def outcome
    (step : Run α)
    (surroundings : Surroundings)
    (state : State) : Except Failure α × State :=
  (step.run surroundings).run.run state

/-- A performance is the outcome of a step that starts with an empty log. -/
theorem perform_eq_outcome
    (step : Run α)
    (surroundings : Surroundings)
    (tree : Files.Tree) :
    perform step surroundings tree = outcome step surroundings ⟨tree, []⟩ :=
  rfl

/-- A step and what follows it come to what the second comes to after the first. -/
theorem outcome_bind
    (step : Run α)
    (next : α → Run β)
    (surroundings : Surroundings)
    (state : State) :
    outcome (step >>= next) surroundings state =
      match outcome step surroundings state with
      | (.ok value, between) => outcome (next value) surroundings between
      | (.error failure, between) => (.error failure, between) := by
  simp only [outcome, ReaderT.run_bind, ExceptT.run_bind, StateT.run_bind]
  change
    (match (step.run surroundings).run.run state with
      | (result, between) => _) = _
  cases (step.run surroundings).run.run state with
  | mk result between =>
      cases result <;> rfl

/-- A step ends in one of two ways: with a value and a state for which `after` holds, or with a
failure and a state for which `failing` holds. -/
def Ends
    (surroundings : Surroundings)
    (state : State)
    (step : Run α)
    (after : α → State → Prop)
    (failing : Failure → State → Prop) : Prop :=
  match outcome step surroundings state with
  | (.ok value, final) => after value final
  | (.error failure, final) => failing failure final

namespace Ends

variable {surroundings : Surroundings}
variable {state : State}

/-- A step that is known to have a value ends as it has to with a value. -/
theorem of_ok
    {step : Run α}
    {after : α → State → Prop}
    {failing : Failure → State → Prop}
    (ends : Ends surroundings state step after failing)
    {value : α}
    {final : State}
    (succeeds : outcome step surroundings state = (.ok value, final)) :
    after value final := by
  simpa [Ends, succeeds] using ends

/-- A step that is known to fail ends as it has to with a failure. -/
theorem of_error
    {step : Run α}
    {after : α → State → Prop}
    {failing : Failure → State → Prop}
    (ends : Ends surroundings state step after failing)
    {failure : Failure}
    {final : State}
    (fails : outcome step surroundings state = (.error failure, final)) :
    failing failure final := by
  simpa [Ends, fails] using ends

/-- What is known about the state of either end is known about the state that is left behind. -/
theorem final
    {step : Run α}
    {left : State → Prop}
    (ends :
      Ends surroundings state step (fun _ final => left final) (fun _ final => left final)) :
    left (outcome step surroundings state).2 := by
  unfold Ends at ends
  split at ends
  · next result =>
      rw [result]
      exact ends
  · next result =>
      rw [result]
      exact ends

/-- What is known about an end may be weakened. -/
theorem weaken
    {step : Run α}
    {after laterAfter : α → State → Prop}
    {failing laterFailing : Failure → State → Prop}
    (ends : Ends surroundings state step after failing)
    (afterHolds : ∀ value final, after value final → laterAfter value final)
    (failingHolds :
      ∀ failure final, failing failure final → laterFailing failure final) :
    Ends surroundings state step laterAfter laterFailing := by
  unfold Ends at ends ⊢
  split
  · next value final succeeds =>
      rw [succeeds] at ends
      exact afterHolds value final ends
  · next failure final fails =>
      rw [fails] at ends
      exact failingHolds failure final ends

/-- A step that does not fail has a value. -/
theorem exists_ok
    {step : Run α}
    {after : α → State → Prop}
    (ends : Ends surroundings state step after (fun _ _ => False)) :
    ∃ value final, outcome step surroundings state = (.ok value, final) ∧ after value final := by
  unfold Ends at ends
  split at ends
  · next value final succeeds =>
      exact ⟨value, final, succeeds, ends⟩
  · exact ends.elim

/-- What a step comes to may be kept at its ends. -/
theorem with_outcome
    {step : Run α}
    {after : α → State → Prop}
    {failing : Failure → State → Prop}
    (ends : Ends surroundings state step after failing) :
    Ends surroundings state step
      (fun value final =>
        outcome step surroundings state = (.ok value, final) ∧ after value final)
      (fun failure final =>
        outcome step surroundings state = (.error failure, final) ∧ failing failure final) := by
  unfold Ends at ends ⊢
  split
  · next value final succeeds =>
      rw [succeeds] at ends
      exact ⟨succeeds, ends⟩
  · next failure final fails =>
      rw [fails] at ends
      exact ⟨fails, ends⟩

/-- What is true anyway is true of the ends of a step. -/
theorem of_forall
    {step : Run α}
    {after : α → State → Prop}
    {failing : Failure → State → Prop}
    (afterHolds : ∀ value final, after value final)
    (failingHolds : ∀ failure final, failing failure final) :
    Ends surroundings state step after failing := by
  unfold Ends
  split
  · exact afterHolds _ _
  · exact failingHolds _ _

/-- A step and what follows it end as the second does from each end of the first. -/
theorem bind
    {step : Run α}
    {next : α → Run β}
    {middle : α → State → Prop}
    {after : β → State → Prop}
    {failing : Failure → State → Prop}
    (first : Ends surroundings state step middle failing)
    (second :
      ∀ value between,
        middle value between →
        Ends surroundings between (next value) after failing) :
    Ends surroundings state (step >>= next) after failing := by
  unfold Ends at first ⊢
  rw [outcome_bind]
  cases ended : outcome step surroundings state with
  | mk result between =>
      rw [ended] at first
      cases result with
      | ok value =>
          exact second value between first
      | error failure =>
          exact first

/-- A step that does nothing. -/
theorem pure
    {value : α}
    {after : α → State → Prop}
    {failing : Failure → State → Prop}
    (holds : after value state) :
    Ends surroundings state (Pure.pure value) after failing :=
  holds

/-- A step that fails. -/
theorem throw
    {failure : Failure}
    {after : α → State → Prop}
    {failing : Failure → State → Prop}
    (holds : failing failure state) :
    Ends surroundings state (MonadExcept.throw failure : Run α) after failing :=
  holds

/-- A step that looks at its surroundings goes on with them. -/
theorem read
    {next : Surroundings → Run α}
    {after : α → State → Prop}
    {failing : Failure → State → Prop}
    (ends : Ends surroundings state (next surroundings) after failing) :
    Ends surroundings state (MonadReader.read >>= next) after failing :=
  ends

/-- A step that looks at the state goes on with it. -/
theorem get
    {next : State → Run α}
    {after : α → State → Prop}
    {failing : Failure → State → Prop}
    (ends : Ends surroundings state (next state) after failing) :
    Ends surroundings state (MonadState.get >>= next) after failing :=
  ends

/-- A step that replaces the state goes on from the new one. -/
theorem set
    {replacement : State}
    {next : PUnit → Run α}
    {after : α → State → Prop}
    {failing : Failure → State → Prop}
    (ends : Ends surroundings replacement (next ⟨⟩) after failing) :
    Ends surroundings state (MonadStateOf.set replacement >>= next) after failing :=
  ends

/-- A step that logs leaves the tree alone. -/
theorem log
    {records : List LogRecord}
    {after : Unit → State → Prop}
    {failing : Failure → State → Prop}
    (holds : after () { state with log := state.log ++ records }) :
    Ends surroundings state (log records) after failing :=
  holds

/-- A step that asks something of the tree leaves the state alone. -/
theorem ask
    {question : Files.Tree → Place → Except Files.Failure α}
    {reported : Files.Failure → Failure}
    {after : α → State → Prop}
    {failing : Failure → State → Prop}
    (answered :
      ∀ answer,
        question state.tree surroundings.workingDirectory = .ok answer →
        after answer state)
    (refused :
      ∀ reason,
        question state.tree surroundings.workingDirectory = .error reason →
        failing (reported reason) state) :
    Ends surroundings state (ask question reported) after failing := by
  unfold Run.ask
  refine get (read ?_)
  split
  · next answer asked =>
      exact pure (answered answer asked)
  · next reason asked =>
      exact throw (refused reason asked)

/-- After a question to the tree a run goes on from the same state. -/
theorem ask_bind
    {question : Files.Tree → Place → Except Files.Failure α}
    {reported : Files.Failure → Failure}
    {next : α → Run β}
    {after : β → State → Prop}
    {failing : Failure → State → Prop}
    (answered :
      ∀ answer,
        question state.tree surroundings.workingDirectory = .ok answer →
        Ends surroundings state (next answer) after failing)
    (refused :
      ∀ reason,
        question state.tree surroundings.workingDirectory = .error reason →
        failing (reported reason) state) :
    Ends surroundings state (Run.ask question reported >>= next) after failing := by
  have asked :
      Ends surroundings state (Run.ask question reported)
        (fun answer final =>
          question state.tree surroundings.workingDirectory = .ok answer ∧
            final = state)
        failing :=
    ask (fun _ answer => ⟨answer, rfl⟩) refused
  refine asked.bind ?_
  rintro answer _ ⟨given, rfl⟩
  exact answered answer given

/-- A question whose answer is known is answered. -/
theorem ask_bind_of_ok
    {question : Files.Tree → Place → Except Files.Failure α}
    {reported : Files.Failure → Failure}
    {next : α → Run β}
    {after : β → State → Prop}
    {failing : Failure → State → Prop}
    {answer : α}
    (answered : question state.tree surroundings.workingDirectory = .ok answer)
    (ends : Ends surroundings state (next answer) after failing) :
    Ends surroundings state (Run.ask question reported >>= next) after failing := by
  refine ask_bind ?_ ?_
  · intro other given
    rw [answered] at given
    cases given
    exact ends
  · intro reason refused
    rw [answered] at refused
    cases refused

/-- After a look at a path a run goes on from the same state. -/
theorem exists?_bind
    {path : Path}
    {next : Bool → Run β}
    {after : β → State → Prop}
    {failing : Failure → State → Prop}
    (seen :
      ∀ found?,
        state.tree.status? surroundings.workingDirectory path = .ok found? →
        Ends surroundings state (next found?.isSome) after failing)
    (unasked :
      ∀ reason,
        state.tree.status? surroundings.workingDirectory path = .error reason →
        failing (.file reason) state) :
    Ends surroundings state (exists? path >>= next) after failing := by
  have looked :
      Ends surroundings state (exists? path)
        (fun present final =>
          ∃ found?,
            state.tree.status? surroundings.workingDirectory path = .ok found? ∧
              present = found?.isSome ∧
              final = state)
        failing := by
    unfold exists?
    exact ask_bind (fun found? given => pure ⟨found?, given, rfl, rfl⟩) unasked
  refine looked.bind ?_
  rintro _ _ ⟨found?, given, rfl, rfl⟩
  exact seen found? given

/-- A look at a path of which it is known what is there sees that. -/
theorem exists?_bind_of_ok
    {path : Path}
    {next : Bool → Run β}
    {after : β → State → Prop}
    {failing : Failure → State → Prop}
    {found? : Option Entry}
    (seen : state.tree.status? surroundings.workingDirectory path = .ok found?)
    (ends : Ends surroundings state (next found?.isSome) after failing) :
    Ends surroundings state (exists? path >>= next) after failing := by
  refine exists?_bind ?_ ?_
  · intro other sees
    rw [seen] at sees
    cases sees
    exact ends
  · intro reason unasked
    rw [seen] at unasked
    cases unasked

/-- After a log record a run goes on with the same tree. -/
theorem log_bind
    {records : List LogRecord}
    {next : Unit → Run β}
    {after : β → State → Prop}
    {failing : Failure → State → Prop}
    (ends :
      ∀ logged,
        logged.tree = state.tree →
        Ends surroundings logged (next ()) after failing) :
    Ends surroundings state (Run.log records >>= next) after failing :=
  ends { state with log := state.log ++ records } rfl

/-- A step that changes the tree has the new tree, or leaves the state alone. -/
theorem change
    {action : Files.Tree → Place → Except Files.Failure Files.Tree}
    {reported : Files.Failure → Failure}
    {after : Unit → State → Prop}
    {failing : Failure → State → Prop}
    (changed :
      ∀ tree,
        action state.tree surroundings.workingDirectory = .ok tree →
        after () { state with tree := tree })
    (refused :
      ∀ reason,
        action state.tree surroundings.workingDirectory = .error reason →
        failing (reported reason) state) :
    Ends surroundings state (change action reported) after failing :=
  ask_bind changed refused

/-- After a change of the tree a run goes on with the new tree. -/
theorem change_bind
    {action : Files.Tree → Place → Except Files.Failure Files.Tree}
    {reported : Files.Failure → Failure}
    {next : Unit → Run β}
    {after : β → State → Prop}
    {failing : Failure → State → Prop}
    (changed :
      ∀ tree,
        action state.tree surroundings.workingDirectory = .ok tree →
        Ends surroundings { state with tree := tree } (next ()) after failing)
    (refused :
      ∀ reason,
        action state.tree surroundings.workingDirectory = .error reason →
        failing (reported reason) state) :
    Ends surroundings state (Run.change action reported >>= next) after failing := by
  have acted :
      Ends surroundings state (Run.change action reported)
        (fun _ final =>
          ∃ tree,
            action state.tree surroundings.workingDirectory = .ok tree ∧
              final = { state with tree := tree })
        failing :=
    change (fun tree acts => ⟨tree, acts, rfl⟩) refused
  refine acted.bind ?_
  rintro _ _ ⟨tree, acts, rfl⟩
  exact changed tree acts

/-- A step that makes directories has the tree with those that could be made. -/
theorem ensureDirectories
    {path : Path}
    {reported : Files.Failure → Failure}
    {after : Unit → State → Prop}
    {failing : Failure → State → Prop}
    (made :
      ∀ tree,
        state.tree.ensureDirectories surroundings.workingDirectory path = (tree, none) →
        after () { state with tree := tree })
    (refused :
      ∀ tree reason,
        state.tree.ensureDirectories surroundings.workingDirectory path =
          (tree, some reason) →
        failing (reported reason) { state with tree := tree }) :
    Ends surroundings state (ensureDirectories path reported) after failing := by
  unfold Run.ensureDirectories
  refine get (read ?_)
  cases making : state.tree.ensureDirectories surroundings.workingDirectory path with
  | mk tree reason? =>
      cases reason? with
      | none =>
          exact made tree making
      | some reason =>
          exact refused tree reason making

/-- Making directories ends with all of them there, or with the reason why they are not. -/
theorem ensureDirectories_making
    (path : Path)
    (reported : Files.Failure → Failure) :
    Ends surroundings state (Run.ensureDirectories path reported)
      (fun _ final =>
        state.tree.ensureDirectories surroundings.workingDirectory path = (final.tree, none))
      (fun failure final =>
        ∃ reason,
          failure = reported reason ∧
            state.tree.ensureDirectories surroundings.workingDirectory path =
              (final.tree, some reason)) :=
  ensureDirectories (fun _ makes => makes) fun _ reason makes => ⟨reason, rfl, makes⟩

end Ends

-- From here on a run is followed by the rules alone.
attribute [irreducible] Ends

end Tablewright.Run
