import Tablewright.Proofs.Access.Filter

/-!
# Queries for rows

A call that reads rows makes one query. The calls on it are those for the columns, the filter and
the page, in this order; a client that fails on the way has been given the first of them only.
-/

namespace Tablewright.Access

/-- A call on a query: its name and what it is given. -/
abbrev QueryCall := String × List Value

/-- The call that adds a part to a query. -/
def QueryPart.call
    (part : QueryPart) : QueryCall :=
  (part.name, part.arguments)

/-- The calls on a query, in order. -/
def Query.calls
    (query : Query) : List QueryCall :=
  query.parts.map QueryPart.call

/-- The calls that a draft comes to, in order. -/
def Draft.calls
    (draft : Draft) : List QueryCall :=
  draft.parts.map QueryPart.call

/-- The client fails by the time that a query has so many calls. -/
def Interrupts
    (responses : List Response)
    (count : Nat) : Prop :=
  ∃ step error, responses.head? = some (.interruption step error) ∧ step ≤ count

/-- The query goes to the table and has these calls, all of them unless the client fails on the
way. -/
structure Query.IsMadeOf
    (query : Query)
    (table : Value)
    (calls : List QueryCall)
    (responses : List Response) : Prop where
  onTable : query.table = table
  inOrder : query.calls <+: calls
  complete : ¬ Interrupts responses calls.length → query.calls = calls
  uninterrupted : query.executed = true → ¬ Interrupts responses calls.length

section Sending

variable {responses : List Response}

theorem interruptionWithin?_answer_eq_none_iff
    {count : Nat} :
    (Session.start responses).answer.interruptionWithin? count = none ↔
      ¬ Interrupts responses count := by
  cases responses with
  | nil =>
      simp [Session.start, Session.answer, Response.interruptionWithin?, Interrupts]
  | cons response rest =>
      cases response with
      | interruption step error =>
          by_cases within : step ≤ count <;>
            simp [Session.start, Session.answer, Response.interruptionWithin?, Interrupts, within]
      | data _ | refusal _ | breakdown _ =>
          simp [Session.start, Session.answer, Response.interruptionWithin?, Interrupts]

/-- Sending a draft makes one query of its calls, which is executed unless the client fails on the
way or the draft does. -/
theorem exists_query_of_sends
    {table : Value}
    {draft : Draft}
    {sent : Except AccessError Value × Session}
    (sends : Sends table draft (.start responses) sent) :
    ∃ query,
      sent.2.queries = [query] ∧
        query.IsMadeOf table draft.calls responses ∧
        (query.executed = true ↔
          draft.fault? = none ∧ ¬ Interrupts responses draft.calls.length) := by
  have sameLength : draft.calls.length = draft.parts.length := List.length_map _
  cases sends with
  | interrupted interrupts =>
      have interrupted : Interrupts responses draft.calls.length := by
        by_contra uninterrupted
        rw [sameLength, ← interruptionWithin?_answer_eq_none_iff, interrupts] at uninterrupted
        cases uninterrupted
      refine ⟨_, rfl, ⟨rfl, ?_, ?_, nofun⟩, ?_⟩
      · exact (List.take_prefix _ _).map _
      · intro uninterrupted
        exact absurd interrupted uninterrupted
      · simp [interrupted]
  | abandoned faulty =>
      refine ⟨_, rfl, ⟨rfl, List.prefix_refl _, fun _ => rfl, nofun⟩, ?_⟩
      simp [faulty]
  | executed uninterrupted complete =>
      rw [interruptionWithin?_answer_eq_none_iff, ← sameLength] at uninterrupted
      refine ⟨_, rfl, ⟨rfl, List.prefix_refl _, fun _ => rfl, fun _ => uninterrupted⟩, ?_⟩
      simp [complete, uninterrupted]

end Sending

/-- What is asked for when rows are read. -/
structure RowRequest where
  table : Value
  select : Value
  filters : Value
  limit : Value
  page : Value

namespace RowRequest

/-- What the values of the parameters ask for. -/
def ofBound
    (bound : Calls.Bound) : RowRequest where
  table := bound.get "table_name"
  select := bound.get "select"
  filters := bound.get "filters"
  limit := bound.get "limit"
  page := bound.get "page"

/-- The arguments fit the primitive of the class and ask for this. -/
def IsMadeBy
    (request : RowRequest)
    (generated : GeneratedClass)
    (arguments : Calls.Arguments) : Prop :=
  ∃ bound,
    Calls.bind (generated.primitiveCallee .getAll) arguments = .ok bound ∧
      ofBound bound = request

/-- The draft of the query. -/
def draft
    (request : RowRequest) : Draft :=
  getAllDraft request.select request.filters request.limit request.page

/-- The call that selects columns, which comes first. -/
def selectCall
    (request : RowRequest) : QueryCall :=
  ("select", [columnsOf request.select])

variable {request : RowRequest}
variable {generated : GeneratedClass}
variable {arguments : Calls.Arguments}

/-- A call reads what it asks for. -/
theorem callPrimitive_of_isMadeBy
    (made : request.IsMadeBy generated arguments)
    (responses : List Response) :
    generated.callPrimitive .getAll arguments responses =
      .ofWork
        ((getAll request.table request.select request.filters request.limit request.page).run
          (.start responses)) := by
  obtain ⟨bound, fits, rfl⟩ := made
  rw [GeneratedClass.callPrimitive, fits]
  rfl

/-- A call that reads rows makes one query of the calls that its draft comes to. -/
theorem exists_query_of_isMadeBy
    (made : request.IsMadeBy generated arguments)
    (responses : List Response) :
    ∃ query,
      (generated.callPrimitive .getAll arguments responses).queries = [query] ∧
        query.IsMadeOf request.table request.draft.calls responses ∧
        (query.executed = true ↔
          request.draft.fault? = none ∧ ¬ Interrupts responses request.draft.calls.length) := by
  have sends := sends_run request.table request.draft (.start responses)
  obtain ⟨query, isOnly, isMade⟩ := exists_query_of_sends sends
  refine ⟨query, ?_, isMade⟩
  -- What is made of the answer, or logged of a failure, adds no query.
  rw [callPrimitive_of_isMadeBy made, getAll, logged, run_tryCatch, run_bind]
  unfold draft at isOnly
  generalize (send request.table _).run (.start responses) = sent at isOnly ⊢
  obtain ⟨result, session⟩ := sent
  cases result with
  | ok rows => exact isOnly
  | error error => exact isOnly

end RowRequest

end Tablewright.Access
