import Mathlib.Logic.Relation
import Tablewright.Proofs.Access.Forwarding
import Tablewright.Proofs.Access.Work

/-!
# Failures that are reported once

A call of a primitive that yields a value logs nothing. One that fails logs this failure once, and
fails with it. The one failure that becomes a value is that there is no such row, when one row is
read. A method reports its calls in this way as calls of its primitive unless another method has the
name of the primitive.
-/

namespace Tablewright.Access

open Methods
open Relation (ReflTransGen)

/-- The client answers a query with data, and nothing else happens. -/
def IsAnswered
    (before after : Session) : Prop :=
  ∃ query rows,
    query.executed = true ∧ before.answer = .data rows ∧ after = before.pass query

/-- Failures that are not the client's: computing with the arguments or the data fails, or an
operation that needs a row gets none. -/
inductive IsOwnFailure
    (primitive : Primitive) : AccessError → Prop where
  | misfit
      (fault : Misfit) :
      IsOwnFailure primitive (.misfit fault)
  | noRow
      (needsRow : primitive ∈ [.create, .update, .updateMany])
      (message : String) :
      IsOwnFailure primitive (noRow message)

/-- How a session ends that fails after a number of queries was answered. -/
inductive FailsWith
    (primitive : Primitive)
    (before : Session) : AccessError → Session → Prop where
  | client
      {between : Session}
      {error : AccessError}
      (answered : ReflTransGen IsAnswered before between)
      (fails : between.answer.result = .error error)
      (query : Query) :
      FailsWith primitive before error (between.pass query)
  | unsent
      {between : Session}
      (answered : ReflTransGen IsAnswered before between)
      (fault : Misfit)
      {query : Query}
      (notSent : query.executed = false) :
      FailsWith primitive before (.misfit fault) (between.abandon query)
  | own
      {after : Session}
      {error : AccessError}
      (answered : ReflTransGen IsAnswered before after)
      (isOwn : IsOwnFailure primitive error) :
      FailsWith primitive before error after

/-- What a call of a primitive comes to, with what it says of it in the log. -/
inductive ReportedOnce
    (primitive : Primitive)
    (table : Value)
    (responses : List Response) : Outcome → Prop where
  | returned
      {value : Value}
      {after : Session}
      (answered : ReflTransGen IsAnswered (.start responses) after) :
      ReportedOnce primitive table responses ⟨.ok value, after.queries, []⟩
  | noSuchRow
      {error : AccessError}
      (readsOne : primitive = .getById)
      (fails : (Session.start responses).answer.result = .error error)
      (notFound : error.isNotFound = true)
      (query : Query) :
      ReportedOnce primitive table responses ⟨.ok .null, [query], []⟩
  | failed
      {error : AccessError}
      {after : Session}
      (fails : FailsWith primitive (.start responses) error after)
      (isFailure : primitive = .getById → error.isNotFound = false) :
      ReportedOnce primitive table responses
        ⟨.error (.access error), after.queries,
          [.error
            ("Error in " ++ primitive.name ++ " for " ++ table.display ++ ": " ++
              error.message)]⟩

/-- What work comes to that logs nothing by itself. -/
inductive EndsQuietly
    {α : Type}
    (primitive : Primitive)
    (before : Session) : Except AccessError α × Session → Prop where
  | returned
      {value : α}
      {after : Session}
      (answered : ReflTransGen IsAnswered before after) :
      EndsQuietly primitive before (.ok value, after)
  | failed
      {error : AccessError}
      {after : Session}
      (fails : FailsWith primitive before error after) :
      EndsQuietly primitive before (.error error, after)

/-- Work that logs nothing by itself. -/
def IsQuiet
    {α : Type}
    (primitive : Primitive)
    (work : Work α) : Prop :=
  ∀ session, EndsQuietly primitive session (work.run session)

theorem logs_of_answered
    {before after : Session}
    (answered : ReflTransGen IsAnswered before after) :
    after.logs = before.logs := by
  induction answered with
  | refl =>
      rfl
  | tail _ step inductionHypothesis =>
      obtain ⟨_, _, _, _, rfl⟩ := step
      exact inductionHypothesis

section Quiet

variable {primitive : Primitive}

/-- What fails later fails after the queries that were answered before as well. -/
theorem FailsWith.after_answered
    {before between after : Session}
    {error : AccessError}
    (answered : ReflTransGen IsAnswered before between)
    (fails : FailsWith primitive between error after) :
    FailsWith primitive before error after := by
  cases fails with
  | client more fails query => exact .client (answered.trans more) fails query
  | unsent more fault notSent => exact .unsent (answered.trans more) fault notSent
  | own more isOwn => exact .own (answered.trans more) isOwn

theorem FailsWith.logs_eq
    {before after : Session}
    {error : AccessError}
    (fails : FailsWith primitive before error after) :
    after.logs = before.logs := by
  cases fails with
  | client answered _ _ | unsent answered _ _ | own answered _ =>
      have quiet := logs_of_answered answered
      exact quiet

namespace IsQuiet

variable {α β : Type}

theorem pure
    (value : α) :
    IsQuiet primitive (Pure.pure value : Work α) :=
  fun _ => .returned .refl

theorem throw
    {error : AccessError}
    (isOwn : IsOwnFailure primitive error) :
    IsQuiet primitive (MonadExcept.throw error : Work α) :=
  fun _ => .failed (.own .refl isOwn)

theorem orMisfit
    (result : Except Misfit α) :
    IsQuiet primitive (orMisfit result) := by
  cases result with
  | ok value => exact .pure value
  | error fault => exact .throw (.misfit fault)

theorem bind
    {work : Work α}
    {next : α → Work β}
    (first : IsQuiet primitive work)
    (second : ∀ value, IsQuiet primitive (next value)) :
    IsQuiet primitive (work >>= next) := by
  intro session
  rw [run_bind]
  have ends := first session
  generalize work.run session = ended at ends ⊢
  cases ends with
  | failed fails =>
      exact .failed fails
  | @returned value between answered =>
      dsimp only
      have laterEnds := second value between
      generalize (next value).run between = later at laterEnds ⊢
      cases laterEnds with
      | returned more => exact .returned (answered.trans more)
      | failed fails => exact .failed (fails.after_answered answered)

theorem send
    (table : Value)
    (draft : Draft) :
    IsQuiet primitive (send table draft) := by
  intro session
  have sends := sends_run table draft session
  generalize (Access.send table draft).run session = sent at sends ⊢
  cases sends with
  | interrupted interrupts =>
      have fails := Response.result_of_interruptionWithin? interrupts
      exact .failed (.client .refl fails _)
  | @abandoned fault faulty =>
      exact .failed (.unsent .refl fault rfl)
  | executed _ _ =>
      cases result : session.answer.result with
      | error error =>
          exact .failed (.client .refl result _)
      | ok rows =>
          have answers := (Response.interruptionWithin?_of_result result 0).2
          exact .returned (.single ⟨_, rows, rfl, answers, rfl⟩)

theorem firstRow
    (needsRow : primitive ∈ [.create, .update, .updateMany])
    (rows : Value)
    (message : String) :
    IsQuiet primitive (firstRow rows message) := by
  unfold Access.firstRow
  split
  · exact .orMisfit _
  · exact .throw (.noRow needsRow message)

theorem updateRow
    (needsRow : primitive ∈ [.create, .update, .updateMany])
    (table recordId changes idField : Value) :
    IsQuiet primitive (updateRow table recordId changes idField) :=
  .bind (.send _ _) fun rows => .firstRow needsRow rows _

theorem updateEach
    (needsRow : primitive ∈ [.create, .update, .updateMany])
    (table idField : Value)
    (updates : List Value) :
    IsQuiet primitive (updateEach table idField updates) := by
  induction updates with
  | nil =>
      exact .pure []
  | cons update rest inductionHypothesis =>
      have first : IsQuiet primitive (applyUpdate table idField update) :=
        .bind (.orMisfit _) fun _ => .bind (.orMisfit _) fun _ => .updateRow needsRow _ _ _ _
      exact .bind first fun _ => .bind inductionHypothesis fun _ => .pure _

end IsQuiet

variable {table : Value}
variable {responses : List Response}

theorem ReportedOnce.of_answered
    {after : Session}
    (answered : ReflTransGen IsAnswered (.start responses) after)
    (value : Value) :
    ReportedOnce primitive table responses (.ofWork (.ok value, after)) := by
  have nothingLogged : after.logs = [] := logs_of_answered answered
  have reported : ReportedOnce primitive table responses ⟨.ok value, after.queries, []⟩ :=
    .returned answered
  rw [Outcome.ofWork_ok, nothingLogged]
  exact reported

theorem ReportedOnce.of_fails
    {after : Session}
    {error : AccessError}
    (fails : FailsWith primitive (.start responses) error after)
    (isFailure : primitive = .getById → error.isNotFound = false) :
    ReportedOnce primitive table responses
      (.ofWork ((failLogged primitive table error).run after)) := by
  have nothingLogged : after.logs = [] := fails.logs_eq
  have reported :
      ReportedOnce primitive table responses
        ⟨.error (.access error), after.queries, [failureRecord primitive table error]⟩ :=
    .failed fails isFailure
  rw [run_failLogged, Outcome.ofWork_error, nothingLogged]
  exact reported

/-- Quiet work whose failures are logged is reported once. -/
theorem reportedOnce_logged
    {work : Work Value}
    (quiet : IsQuiet primitive work)
    (isOther : primitive ≠ .getById) :
    ReportedOnce primitive table responses
      (.ofWork ((logged primitive table work).run (.start responses))) := by
  unfold logged
  rw [run_tryCatch]
  have ends := quiet (.start responses)
  generalize work.run (.start responses) = ended at ends ⊢
  cases ends with
  | returned answered => exact .of_answered answered _
  | failed fails => exact .of_fails fails fun isGetById => (isOther isGetById).elim

/-- Reading one row is reported once, and so is that there is none. -/
theorem reportedOnce_getById
    (recordId select idField : Value) :
    ReportedOnce .getById table responses
      (.ofWork ((getById table recordId select idField).run (.start responses))) := by
  unfold getById
  rw [run_tryCatch]
  generalize isDraft :
    Draft.ofParts [.select (columnsOf select), rowPart idField recordId, .single] = draft
  have fails_handled :
      ∀ {error : AccessError} (query : Query),
        (Session.start responses).answer.result = .error error →
        ReportedOnce .getById table responses
          (.ofWork
            ((if error.isNotFound then pure .null else failLogged .getById table error : Work
              Value).run ((Session.start responses).pass query))) := by
    intro error query fails
    cases notFound : error.isNotFound with
    | true => exact .noSuchRow rfl fails notFound query
    | false => exact .of_fails (.client .refl fails query) fun _ => notFound
  have sends := sends_run table draft (.start responses)
  generalize (send table draft).run (.start responses) = sent at sends ⊢
  cases sends with
  | interrupted interrupts =>
      exact fails_handled _ (Response.result_of_interruptionWithin? interrupts)
  | abandoned faulty =>
      rw [← isDraft] at faulty
      cases faulty
  | executed _ _ =>
      cases result : (Session.start responses).answer.result with
      | error error =>
          exact fails_handled _ result
      | ok rows =>
          have answers := (Response.interruptionWithin?_of_result result 0).2
          exact .of_answered (.single ⟨_, rows, rfl, answers, rfl⟩) rows

/-- A primitive is reported once, whatever it is given. -/
theorem reportedOnce_runPrimitive
    (primitive : Primitive)
    (table : Value)
    (bound : Calls.Bound)
    (responses : List Response) :
    ReportedOnce primitive table responses (runPrimitive primitive table bound responses) := by
  cases primitive
  case getById =>
    exact reportedOnce_getById _ _ _
  case getAll =>
    exact reportedOnce_logged (.bind (.send _ _) fun _ => .pure _) nofun
  case create =>
    exact reportedOnce_logged (.bind (.send _ _) fun _ => .firstRow (by decide) _ _) nofun
  case createMany =>
    exact reportedOnce_logged (.bind (.send _ _) fun _ => .pure _) nofun
  case update =>
    exact reportedOnce_logged (.updateRow (by decide) _ _ _ _) nofun
  case updateMany =>
    have quiet (updates idField : Value) :
        IsQuiet .updateMany (do
          let updates ← orMisfit updates.items?
          return Value.list (← updateEach table idField updates)) :=
      .bind (.orMisfit _) fun _ => .bind (.updateEach (by decide) _ _ _) fun _ => .pure _
    exact reportedOnce_logged (quiet _ _) nofun
  case delete =>
    exact reportedOnce_logged (.bind (.send _ _) fun _ => .pure _) nofun

end Quiet

/-- Every call of the method that fits it is reported as one of its primitive for its table. -/
def GeneratedClass.ReportsOnce
    (generated : GeneratedClass)
    (method : Forwarder) : Prop :=
  ∀ arguments bound,
    Calls.bind (generated.methodCallee method) arguments = .ok bound →
    ∀ responses,
      ReportedOnce method.primitive (.text method.table) responses
        (generated.call ⟨method.name, arguments, responses⟩)

section Calls

variable {generated : GeneratedClass}
variable {method : Forwarder}

theorem reportedOnce_callPrimitive
    {primitive : Primitive}
    {arguments : Calls.Arguments}
    {bound : Calls.Bound}
    (fits : Calls.bind (generated.primitiveCallee primitive) arguments = .ok bound)
    (responses : List Response) :
    ReportedOnce primitive (bound.get "table_name") responses
      (generated.callPrimitive primitive arguments responses) := by
  rw [GeneratedClass.callPrimitive, fits]
  exact reportedOnce_runPrimitive _ _ _ _

theorem reportsOnce_of_find?
    (found : generated.find? method.name = some (.method method))
    (primitiveFound :
      generated.find? method.primitive.name = some (.primitive method.primitive)) :
    generated.ReportsOnce method := by
  intro arguments bound fits responses
  rw [GeneratedClass.call, callNamed_eq_runPrimitive found primitiveFound fits]
  exact reportedOnce_runPrimitive _ _ _ _

/-- The log tells the failure of an update from those of the primitives that it may stand for. -/
theorem failureRecord_ne_of_mem
    {primitive : Primitive}
    (isTaken : primitive ∈ [.create, .createMany, .updateMany, .delete])
    (table otherTable : Value)
    (error otherError : AccessError) :
    failureRecord primitive table error ≠ failureRecord .update otherTable otherError := by
  intro same
  have sameStart := congrArg (fun record => record.message.toList.take 16) same
  simp only [List.mem_cons, List.not_mem_nil, or_false] at isTaken
  rcases isTaken with rfl | rfl | rfl | rfl <;>
    simp [failureRecord, LogRecord.error, Primitive.name, String.toList_append] at sameStart

/-- A method whose primitive is another one by name is refused, or its failures are reported as
those of the other one. -/
theorem not_reportsOnce_of_shadow
    {shadow : Forwarder}
    (found : generated.find? method.name = some (.method method))
    (shadowed : generated.find? method.primitive.name = some (.method shadow)) :
    ¬ generated.ReportsOnce method := by
  intro reports
  have fits :
      ∃ bound,
        Calls.bind (generated.methodCallee method) ⟨tellingArguments method.primitive, []⟩ =
          .ok bound := by
    obtain ⟨_, _, primitive⟩ := method
    cases primitive <;> exact ⟨_, rfl⟩
  obtain ⟨bound, fits⟩ := fits
  have reported := reports _ bound fits [.breakdown ""]
  rw [GeneratedClass.call] at reported
  rcases callNamed_of_shadow found shadowed fits [.breakdown ""] with
    ⟨error, isRefused⟩ | ⟨-, isTaken, -, passed, updates⟩
  · rw [isRefused] at reported
    cases reported
  · -- The client fails, and the log names another primitive.
    rw [updates] at reported
    have logs :
        (runPrimitive .update (.text shadow.table) passed [.breakdown ""]).logs =
          [failureRecord .update (.text shadow.table) (.brokenDown "")] :=
      rfl
    generalize runPrimitive _ _ _ _ = outcome at reported logs
    cases reported with
    | returned _ | noSuchRow _ _ _ _ =>
        cases logs
    | failed _ _ =>
        have sameRecord := (List.cons.inj logs).1
        exact failureRecord_ne_of_mem isTaken (.text method.table) _ _ _ sameRecord

/-- A method that is not replaced reports its calls as calls of its primitive unless another method
has the name of the primitive. -/
theorem reportsOnce_iff
    (found : generated.find? method.name = some (.method method)) :
    generated.ReportsOnce method ↔
      ∀ other ∈ generated.methods, other.name ≠ method.primitive.name := by
  rw [← find?_primitive_iff]
  constructor
  · intro reports
    rcases find?_primitive generated method.primitive with isPrimitive | ⟨shadow, isMethod⟩
    · exact isPrimitive
    · exact (not_reportsOnce_of_shadow found isMethod reports).elim
  · exact reportsOnce_of_find? found

end Calls

/-- Calls of primitives that fit are reported once, and so are those of a method that is not
replaced, as calls of its primitive for its table, exactly when no method has the name of this
primitive. -/
theorem failures_reported_once_iff
    (generated : GeneratedClass) :
    (∀ primitive arguments bound,
        Calls.bind (generated.primitiveCallee primitive) arguments = .ok bound →
        ∀ responses,
          ReportedOnce primitive (bound.get "table_name") responses
            (generated.callPrimitive primitive arguments responses)) ∧
      ∀ method,
        generated.find? method.name = some (.method method) →
        (generated.ReportsOnce method ↔
          ∀ other ∈ generated.methods, other.name ≠ method.primitive.name) :=
  ⟨fun _ _ _ => reportedOnce_callPrimitive, fun _ => reportsOnce_iff⟩

/-- The methods of one table report all their calls once, and so does a primitive that is called
with the table. -/
theorem failures_reported_once_iff_of_one_table :
    ∃ blocks,
      blocksOf ⟨[], .suffix, .camel⟩ ["post"] = .ok blocks ∧
        (∀ method ∈ (GeneratedClass.ofBlocks "Api" blocks).methods,
          (GeneratedClass.ofBlocks "Api" blocks).ReportsOnce method) ∧
        ReportedOnce .create (.text "post") [.refusal (.text "busy")]
          ((GeneratedClass.ofBlocks "Api" blocks).callPrimitive .create
            ⟨[.text "post", .null], []⟩ [.refusal (.text "busy")]) := by
  obtain ⟨blocks, made, ownNames, free⟩ :=
    exists_ok_of_decide (blocksOf ⟨[], .suffix, .camel⟩ ["post"])
      (fun blocks =>
        HaveOwnNames ((forwardersOf blocks).map asKnown) ∧
          ∀ method ∈ (forwardersOf blocks).map asKnown,
            ∀ primitive ∈ Primitive.all, method.name ≠ primitive.name)
      (by decide +kernel)
  have keeps := (keepsMethods_ofBlocks_iff made "Api").mpr ownNames
  obtain ⟨direct, forwarded⟩ := failures_reported_once_iff (.ofBlocks "Api" blocks)
  refine ⟨blocks, made, fun method member => ?_, ?_⟩
  · apply (forwarded method (keeps method member)).mpr
    exact fun other otherMember => free other otherMember _ (Primitive.mem_all _)
  · exact direct .create _
      ⟨[("table_name", .text "post"), ("data", .null)], []⟩ rfl [.refusal (.text "busy")]

/-- Reading one row of a table with a wide low line is called like reading all rows of any table.
So a call that reads all rows fails without a word in the log. -/
theorem blocksOf_wide_low_line_fails_unreported :
    ∃ blocks error,
      blocksOf ⟨Naming.Overrides.builtIn, .suffix, .camel⟩ ["＿all", "posts"] = .ok blocks ∧
        (GeneratedClass.ofBlocks "SupabaseApi" blocks).IsDefinedBy "SupabaseApi" blocks ∧
        ⟨"getPosts", "posts", .getAll⟩ ∈ forwardersOf blocks ∧
        (GeneratedClass.ofBlocks "SupabaseApi" blocks).call ⟨"getPosts", ⟨[], []⟩, []⟩ =
          ⟨.error (.arguments error), [], []⟩ := by
  obtain ⟨blocks, made, plain, member, foundMethod, shadowMember⟩ :=
    exists_ok_of_decide (blocksOf ⟨Naming.Overrides.builtIn, .suffix, .camel⟩ ["＿all", "posts"])
      (fun blocks =>
        HavePlainComments blocks ∧
          ⟨"getPosts", "posts", .getAll⟩ ∈ forwardersOf blocks ∧
          ((forwardersOf blocks).map asKnown).reverse.find?
              (fun method => method.name = "getPosts") =
            some ⟨"getPosts", "posts", .getAll⟩ ∧
          ⟨"get＿all", "＿all", .getById⟩ ∈ forwardersOf blocks)
      (by decide +kernel)
  have found :
      (GeneratedClass.ofBlocks "SupabaseApi" blocks).find? "getPosts" =
        some (.method ⟨"getPosts", "posts", .getAll⟩) := by
    rw [GeneratedClass.find?, methods_ofBlocks, foundMethod]
  have sameName : Text.normalForm "get＿all" = Primitive.getAll.name := by decide +kernel
  have shadowed :
      ∃ shadow,
        (GeneratedClass.ofBlocks "SupabaseApi" blocks).find? Primitive.getAll.name =
          some (.method shadow) := by
    have known : asKnown ⟨"get＿all", "＿all", .getById⟩ ∈
        (GeneratedClass.ofBlocks "SupabaseApi" blocks).methods :=
      List.mem_map_of_mem shadowMember
    obtain ⟨shadow, -, -, isShadow⟩ := GeneratedClass.exists_find? known
    rw [asKnown, sameName] at isShadow
    exact ⟨shadow, isShadow⟩
  obtain ⟨shadow, isShadow⟩ := shadowed
  have fits :
      Calls.bind
          ((GeneratedClass.ofBlocks "SupabaseApi" blocks).methodCallee
            ⟨"getPosts", "posts", .getAll⟩) ⟨[], []⟩ =
        .ok
          ⟨[("select", .text "*"), ("id_field", .text "id"), ("limit", .null),
            ("page", .int 0), ("filters", .null)], []⟩ :=
    rfl
  rcases callNamed_of_shadow found isShadow fits [] with ⟨error, isRefused⟩ | ⟨-, isTaken, -⟩
  · exact ⟨blocks, error, made, ⟨plain, rfl⟩, member, isRefused⟩
  · simp at isTaken

end Tablewright.Access
