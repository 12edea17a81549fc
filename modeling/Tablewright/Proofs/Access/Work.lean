import Tablewright.Access.Class

/-!
# What work comes to

Work goes through its parts in order and ends with the first that fails, unless a failure is
handled. Sending a query goes one of three ways. An invariant of sessions that the queries of some
work do not break is kept by the work.
-/

namespace Tablewright.Access

open Methods (Primitive)

section Parts

variable {α β : Type}
variable (session : Session)

/-- Work and what follows it come to what the second comes to after the first. -/
theorem run_bind
    (work : Work α)
    (next : α → Work β) :
    (work >>= next).run session =
      match work.run session with
      | (.ok value, after) => (next value).run after
      | (.error error, after) => (.error error, after) := by
  change ExceptT.bindCont next (work.run session).1 (work.run session).2 = _
  obtain ⟨result, after⟩ := work.run session
  cases result <;> rfl

/-- A failure goes to the handler together with the session that it leaves. -/
theorem run_tryCatch
    (work : Work α)
    (handler : AccessError → Work α) :
    (tryCatch work handler).run session =
      match work.run session with
      | (.ok value, after) => (.ok value, after)
      | (.error error, after) => (handler error).run after := by
  simp only [ExceptT.run_tryCatch, bind, StateT.bind]
  obtain ⟨result, after⟩ := work.run session
  cases result <;> rfl

theorem run_pure
    (value : α) :
    (pure value : Work α).run session = (.ok value, session) :=
  rfl

theorem run_orMisfit
    (result : Except Misfit α) :
    (orMisfit result).run session =
      match result with
      | .ok value => (.ok value, session)
      | .error fault => (.error (.misfit fault), session) := by
  cases result <;> rfl

theorem run_failLogged
    (primitive : Primitive)
    (table : Value)
    (error : AccessError) :
    (failLogged primitive table error).run session =
      (.error error,
        { session with logs := session.logs ++ [failureRecord primitive table error] }) :=
  rfl

theorem Outcome.ofWork_ok
    (value : Value) :
    ofWork (.ok value, session) = ⟨.ok value, session.queries, session.logs⟩ :=
  rfl

theorem Outcome.ofWork_error
    (error : AccessError) :
    ofWork (.error error, session) = ⟨.error (.access error), session.queries, session.logs⟩ :=
  rfl

end Parts

/-- What sending a query comes to: the client fails while the query is made, or the draft does, or
the query is executed. -/
inductive Sends
    (table : Value)
    (draft : Draft)
    (session : Session) : Except AccessError Value × Session → Prop where
  | interrupted
      {taken : Nat}
      {error : AccessError}
      (interrupts :
        session.answer.interruptionWithin? draft.parts.length = some (taken, error)) :
      Sends table draft session
        (.error error, session.pass ⟨table, draft.parts.take taken, false⟩)
  | abandoned
      {fault : Misfit}
      (faulty : draft.fault? = some fault) :
      Sends table draft session
        (.error (.misfit fault), session.abandon ⟨table, draft.parts, false⟩)
  | executed
      (uninterrupted : session.answer.interruptionWithin? draft.parts.length = none)
      (complete : draft.fault? = none) :
      Sends table draft session
        (session.answer.result, session.pass ⟨table, draft.parts, true⟩)

theorem sends_run
    (table : Value)
    (draft : Draft)
    (session : Session) :
    Sends table draft session ((send table draft).run session) := by
  change Sends table draft session (send table draft session)
  unfold send
  split
  · next interrupts =>
      exact .interrupted interrupts
  · next uninterrupted =>
      split
      · next faulty =>
          exact .abandoned faulty
      · next complete =>
          exact .executed uninterrupted complete

/-- A client that fails while a query is made gives its failure as the response. -/
theorem Response.result_of_interruptionWithin?
    {response : Response}
    {steps taken : Nat}
    {error : AccessError}
    (interrupts : response.interruptionWithin? steps = some (taken, error)) :
    response.result = .error error := by
  cases response with
  | interruption step failure =>
      rw [interruptionWithin?] at interrupts
      split at interrupts
      · cases interrupts
        rfl
      · cases interrupts
  | data _ | refusal _ | breakdown _ => cases interrupts

theorem Response.interruptionWithin?_of_result
    {response : Response}
    {rows : Value}
    (answers : response.result = .ok rows)
    (steps : Nat) :
    response.interruptionWithin? steps = none ∧ response = .data rows := by
  cases response with
  | data value =>
      cases answers
      exact ⟨rfl, rfl⟩
  | refusal _ | breakdown _ | interruption _ _ => cases answers

/-- Whatever work comes to, its queries are among the allowed ones if those before it are. -/
def Keeps
    {α : Type}
    (allowed : Query → Prop)
    (work : Work α) : Prop :=
  ∀ session,
    (∀ query ∈ session.queries, allowed query) →
    ∀ query ∈ (work.run session).2.queries, allowed query

namespace Keeps

variable {α β : Type}
variable {allowed : Query → Prop}

theorem pure
    (value : α) :
    Keeps allowed (Pure.pure value : Work α) :=
  fun _ before => before

theorem throw
    (error : AccessError) :
    Keeps allowed (MonadExcept.throw error : Work α) :=
  fun _ before => before

theorem orMisfit
    (result : Except Misfit α) :
    Keeps allowed (orMisfit result) := by
  intro session before
  cases result <;> exact before

theorem bind
    {work : Work α}
    {next : α → Work β}
    (first : Keeps allowed work)
    (second : ∀ value, Keeps allowed (next value)) :
    Keeps allowed (work >>= next) := by
  intro session before
  have between := first session before
  rw [run_bind]
  split
  · next value after ended =>
      rw [ended] at between
      exact second value after between
  · next error after ended =>
      rw [ended] at between
      exact between

/-- What follows a value that may not be there has to keep the queries for this value only. -/
theorem orMisfit_bind
    {result : Except Misfit α}
    {next : α → Work β}
    (keeps : ∀ value, result = .ok value → Keeps allowed (next value)) :
    Keeps allowed (Access.orMisfit result >>= next) := by
  intro session before
  rw [run_bind, run_orMisfit]
  cases result with
  | ok value =>
      exact keeps value rfl session before
  | error fault =>
      exact before

theorem tryCatch
    {work : Work α}
    {handler : AccessError → Work α}
    (first : Keeps allowed work)
    (second : ∀ error, Keeps allowed (handler error)) :
    Keeps allowed (MonadExcept.tryCatch work handler) := by
  intro session before
  have between := first session before
  rw [run_tryCatch]
  split
  · next value after ended =>
      rw [ended] at between
      exact between
  · next error after ended =>
      rw [ended] at between
      exact second error after between

theorem failLogged
    (primitive : Primitive)
    (table : Value)
    (error : AccessError) :
    Keeps allowed (failLogged primitive table error) :=
  fun _ before => before

theorem logged
    {primitive : Primitive}
    {table : Value}
    {work : Work Value}
    (keeps : Keeps allowed work) :
    Keeps allowed (logged primitive table work) :=
  keeps.tryCatch fun _ => failLogged primitive table _

/-- Sending a draft keeps to the allowed queries if those are allowed that stop short and, of a
draft that does not fail, the one that is executed. -/
theorem send
    {table : Value}
    {draft : Draft}
    (stopped : ∀ parts, parts <+: draft.parts → allowed ⟨table, parts, false⟩)
    (executed : draft.fault? = none → allowed ⟨table, draft.parts, true⟩) :
    Keeps allowed (send table draft) := by
  intro session before
  have grown :
      ∃ query,
        allowed query ∧
          ((Access.send table draft).run session).2.queries = session.queries ++ [query] := by
    have sends := sends_run table draft session
    generalize (Access.send table draft).run session = sent at sends ⊢
    cases sends with
    | interrupted _ => exact ⟨_, stopped _ (List.take_prefix _ _), rfl⟩
    | abandoned _ => exact ⟨_, stopped _ (List.prefix_refl _), rfl⟩
    | executed _ complete => exact ⟨_, executed complete, rfl⟩
  obtain ⟨query, isAllowed, grows⟩ := grown
  intro other member
  rw [grows] at member
  rcases List.mem_append.mp member with earlier | isLast
  · exact before other earlier
  · rw [List.mem_singleton.mp isLast]
    exact isAllowed

end Keeps

end Tablewright.Access
