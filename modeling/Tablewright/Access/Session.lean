import Tablewright.Access.Query
import Tablewright.Log
import Tablewright.Template.Base

/-!
# Sessions

The operations of a generated class work in a session: the responses that the client is going to
give, the queries begun so far, and what was logged. An operation yields a value or fails, and in
either case leaves the session as far as it got.
-/

namespace Tablewright.Access

/-- Why an operation fails. -/
inductive AccessError where
  | refused (details : Value)
  | brokenDown (text : String)
  | misfit (fault : Misfit)
  deriving Repr

namespace AccessError

/-- The wording of a failure. -/
def message : AccessError → String
  | .refused details => details.quote
  | .brokenDown text => text
  | .misfit fault => fault.message

/-- The code of a refusal. -/
def code? : AccessError → Option Value
  | .refused (.map entries) => Value.field? "code" entries
  | _ => none

/-- Whether the failure says that there is no such row. -/
def isNotFound
    (error : AccessError) : Bool :=
  match error.code? with
  | some (.text code) => code == Template.notFoundCode
  | _ => false

end AccessError

/-- What the client answers to a query. -/
inductive Response where
  | data (value : Value)
  /-- The service refuses, with details. -/
  | refusal (details : Value)
  /-- The client itself fails. -/
  | breakdown (text : String)
  /-- The client fails at one of the steps in which a query is made, or at the latest when it is sent.
  At step zero it is asked for the table, and at each further step it is given a part. -/
  | interruption (step : Nat) (error : AccessError)
  deriving Repr

def Response.result : Response → Except AccessError Value
  | .data value => .ok value
  | .refusal details => .error (.refused details)
  | .breakdown text => .error (.brokenDown text)
  | .interruption _ error => .error error

/-- How the client fails within the given steps, if it does: the number of the parts that it took,
and its failure. -/
def Response.interruptionWithin?
    (steps : Nat) : Response → Option (Nat × AccessError)
  | .interruption step error => if step ≤ steps then some (step - 1, error) else none
  | _ => none

/-- The responses to come, the queries so far, and what was logged. -/
structure Session where
  responses : List Response
  queries : List Query
  logs : List LogRecord
  deriving Repr

abbrev Work := ExceptT AccessError (StateM Session)

/-- A session in which nothing has been done. -/
def Session.start
    (responses : List Response) : Session :=
  ⟨responses, [], []⟩

/-- The next response. When there are none left, there are no rows. -/
def Session.answer
    (session : Session) : Response :=
  session.responses.headD (.data (.list []))

/-- The session after a query that the client did not answer. -/
def Session.abandon
    (session : Session)
    (query : Query) : Session :=
  { session with queries := session.queries ++ [query] }

/-- The session after a query that the client answered. -/
def Session.pass
    (session : Session)
    (query : Query) : Session :=
  { session.abandon query with responses := session.responses.tail }

/-- Sends a query, unless the client or its draft fails before, and yields the data of the
response. -/
def send
    (table : Value)
    (draft : Draft) : Work Value :=
  fun session =>
    match session.answer.interruptionWithin? draft.parts.length with
    | some (taken, error) => (.error error, session.pass ⟨table, draft.parts.take taken, false⟩)
    | none =>
        match draft.fault? with
        | some fault => (.error (.misfit fault), session.abandon ⟨table, draft.parts, false⟩)
        | none => (session.answer.result, session.pass ⟨table, draft.parts, true⟩)

/-- Work that a fault prevents. -/
def orMisfit
    {α : Type}
    (result : Except Misfit α) : Work α :=
  match result with
  | .ok value => pure value
  | .error fault => throw (.misfit fault)

end Tablewright.Access
