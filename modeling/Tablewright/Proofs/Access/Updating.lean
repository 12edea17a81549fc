import Tablewright.Proofs.Access.Work

/-!
# Updates in turn

Rows are changed one after another, each by a query of its own that meets the response in its place.
The first update that cannot be carried out ends the work with its failure, and the updates after it
are not begun.
-/

namespace Tablewright.Access

/-- What the client answers when so many queries have been answered before. -/
def answerTo
    (responses : List Response)
    (position : Nat) : Response :=
  responses.getD position (.data (.list []))

/-- The parts of the query that changes one row. -/
def changeParts
    (idField recordId changes : Value) : List QueryPart :=
  [.update changes, .compare .equal (keyColumn idField) recordId]

/-- An update that is carried out: it names its row and changes, and the query for them brings back
rows, of which the first is the new one. -/
inductive IsCarriedOut
    (table idField update : Value)
    (response : Response) : Query → Value → Prop where
  | intro
      {recordId changes rows row : Value}
      (names : update.atKey "id" = .ok recordId)
      (gives : update.atKey "data" = .ok changes)
      (answers : response = .data rows)
      (any : rows.isTruthy = true)
      (first : rows.head = .ok row) :
      IsCarriedOut table idField update response
        ⟨table, changeParts idField recordId changes, true⟩ row

/-- The ways in which an update fails, with the queries that it comes to and the failure. -/
inductive StopsWith
    (table idField update : Value)
    (response : Response) : List Query → AccessError → Prop where
  | noId
      {fault : Misfit}
      (missing : update.atKey "id" = .error fault) :
      StopsWith table idField update response [] (.misfit fault)
  | noData
      {recordId : Value}
      {fault : Misfit}
      (names : update.atKey "id" = .ok recordId)
      (missing : update.atKey "data" = .error fault) :
      StopsWith table idField update response [] (.misfit fault)
  | interrupted
      {recordId changes : Value}
      {taken : Nat}
      {error : AccessError}
      (names : update.atKey "id" = .ok recordId)
      (gives : update.atKey "data" = .ok changes)
      (interrupts : response.interruptionWithin? 2 = some (taken, error)) :
      StopsWith table idField update response
        [⟨table, (changeParts idField recordId changes).take taken, false⟩] error
  | refused
      {recordId changes : Value}
      {error : AccessError}
      (names : update.atKey "id" = .ok recordId)
      (gives : update.atKey "data" = .ok changes)
      (uninterrupted : response.interruptionWithin? 2 = none)
      (refuses : response.result = .error error) :
      StopsWith table idField update response
        [⟨table, changeParts idField recordId changes, true⟩] error
  | noRow
      {recordId changes rows : Value}
      (names : update.atKey "id" = .ok recordId)
      (gives : update.atKey "data" = .ok changes)
      (answers : response = .data rows)
      (none : rows.isTruthy = false) :
      StopsWith table idField update response
        [⟨table, changeParts idField recordId changes, true⟩]
        (Access.noRow
          ("No row in " ++ table.display ++ " with " ++ (keyColumn idField).display ++ "=" ++
            recordId.display))
  | noFirst
      {recordId changes rows : Value}
      {fault : Misfit}
      (names : update.atKey "id" = .ok recordId)
      (gives : update.atKey "data" = .ok changes)
      (answers : response = .data rows)
      (any : rows.isTruthy = true)
      (missing : rows.head = .error fault) :
      StopsWith table idField update response
        [⟨table, changeParts idField recordId changes, true⟩] (.misfit fault)

/-- The update cannot be carried out. -/
def Stops
    (table idField update : Value)
    (response : Response) : Prop :=
  ∃ queries error, StopsWith table idField update response queries error

/-- Each update is carried out in its place, by one query and with one row. -/
structure CarriedOutInTurn
    (table idField : Value)
    (updates : List Value)
    (responses : List Response)
    (queries : List Query)
    (rows : List Value) : Prop where
  oneQueryEach : queries.length = updates.length
  oneRowEach : rows.length = updates.length
  each :
    ∀ position update query row,
      updates[position]? = some update →
      queries[position]? = some query →
      rows[position]? = some row →
      IsCarriedOut table idField update (answerTo responses position) query row

section Updates

variable {table idField : Value}

/-- An update that is carried out does not fail. -/
theorem IsCarriedOut.not_stops
    {update row : Value}
    {response : Response}
    {query : Query}
    (carries : IsCarriedOut table idField update response query row) :
    ¬ Stops table idField update response := by
  obtain ⟨names, gives, rfl, any, first⟩ := carries
  rintro ⟨_, _, stops⟩
  cases stops with
  | noId missing =>
      rw [names] at missing
      cases missing
  | noData _ missing =>
      rw [gives] at missing
      cases missing
  | interrupted _ _ interrupts =>
      cases interrupts
  | refused _ _ _ refuses =>
      cases refuses
  | noRow _ _ answers none =>
      cases answers
      rw [any] at none
      cases none
  | noFirst _ _ answers _ missing =>
      cases answers
      rw [first] at missing
      cases missing

/-- What one update in a session comes to. -/
inductive UpdateEnds
    (table idField update : Value)
    (session : Session) : Except AccessError Value × Session → Prop where
  | carriedOut
      {query : Query}
      {row : Value}
      (carries : IsCarriedOut table idField update session.answer query row) :
      UpdateEnds table idField update session (.ok row, session.pass query)
  | stopped
      {queries : List Query}
      {error : AccessError}
      {after : Session}
      (stops : StopsWith table idField update session.answer queries error)
      (grows : after.queries = session.queries ++ queries)
      (quiet : after.logs = session.logs) :
      UpdateEnds table idField update session (.error error, after)

theorem updateEnds_updateRow
    {update recordId changes : Value}
    (names : update.atKey "id" = .ok recordId)
    (gives : update.atKey "data" = .ok changes)
    (session : Session) :
    UpdateEnds table idField update session
      ((updateRow table recordId changes idField).run session) := by
  have asChange :
      [.update changes, rowPart idField recordId] = changeParts idField recordId changes :=
    rfl
  unfold updateRow
  rw [run_bind, asChange]
  have sends := sends_run table (.ofParts (changeParts idField recordId changes)) session
  generalize
    (send table (.ofParts (changeParts idField recordId changes))).run session = sent at sends ⊢
  cases sends with
  | interrupted interrupts =>
      exact .stopped (.interrupted names gives interrupts) rfl rfl
  | abandoned faulty =>
      cases faulty
  | executed uninterrupted _ =>
      cases result : session.answer.result with
      | error error =>
          exact .stopped (.refused names gives uninterrupted result) rfl rfl
      | ok rows =>
          have answers := (Response.interruptionWithin?_of_result result 0).2
          dsimp only
          unfold firstRow
          split
          · next any =>
              rw [run_orMisfit]
              cases first : rows.head with
              | ok row => exact .carriedOut ⟨names, gives, answers, any, first⟩
              | error fault =>
                  exact .stopped (.noFirst names gives answers any first) rfl rfl
          · next none =>
              have isFalse := Bool.eq_false_iff.mpr none
              exact .stopped (.noRow names gives answers isFalse) rfl rfl

theorem updateEnds_applyUpdate
    (update : Value)
    (session : Session) :
    UpdateEnds table idField update session
      ((applyUpdate table idField update).run session) := by
  unfold applyUpdate
  rw [run_bind, run_orMisfit]
  cases names : update.atKey "id" with
  | error fault =>
      exact .stopped (.noId names) (List.append_nil _).symm rfl
  | ok recordId =>
      dsimp only
      rw [run_bind, run_orMisfit]
      cases gives : update.atKey "data" with
      | error fault =>
          exact .stopped (.noData names gives) (List.append_nil _).symm rfl
      | ok changes =>
          exact updateEnds_updateRow names gives session

/-- What updates one after another come to in a session. -/
inductive UpdatesEnd
    (table idField : Value)
    (updates : List Value)
    (session : Session) : Except AccessError (List Value) × Session → Prop where
  | carriedOut
      {queries : List Query}
      {rows : List Value}
      {after : Session}
      (inTurn : CarriedOutInTurn table idField updates session.responses queries rows)
      (grows : after.queries = session.queries ++ queries)
      (quiet : after.logs = session.logs) :
      UpdatesEnd table idField updates session (.ok rows, after)
  | stopped
      {position : Nat}
      {update : Value}
      {queries last : List Query}
      {rows : List Value}
      {error : AccessError}
      {after : Session}
      (isAt : updates[position]? = some update)
      (inTurn :
        CarriedOutInTurn table idField (updates.take position) session.responses queries rows)
      (stops :
        StopsWith table idField update (answerTo session.responses position) last error)
      (grows : after.queries = session.queries ++ (queries ++ last))
      (quiet : after.logs = session.logs) :
      UpdatesEnd table idField updates session (.error error, after)

theorem Session.answer_eq
    (session : Session) :
    session.answer = answerTo session.responses 0 := by
  obtain ⟨responses, _, _⟩ := session
  cases responses <;> rfl

theorem answerTo_tail
    (responses : List Response)
    (position : Nat) :
    answerTo responses.tail position = answerTo responses (position + 1) := by
  cases responses <;> rfl

theorem CarriedOutInTurn.nil
    (responses : List Response) :
    CarriedOutInTurn table idField [] responses [] [] :=
  ⟨rfl, rfl, fun _ _ _ _ isAt => by cases isAt⟩

/-- An update that is carried out comes before those that the remaining responses answer. -/
theorem CarriedOutInTurn.cons
    {update row : Value}
    {updates rows : List Value}
    {responses : List Response}
    {query : Query}
    {queries : List Query}
    (first : IsCarriedOut table idField update (answerTo responses 0) query row)
    (rest : CarriedOutInTurn table idField updates responses.tail queries rows) :
    CarriedOutInTurn table idField (update :: updates) responses (query :: queries)
      (row :: rows) where
  oneQueryEach := congrArg Nat.succ rest.oneQueryEach
  oneRowEach := congrArg Nat.succ rest.oneRowEach
  each position other otherQuery otherRow isAt queryAt rowAt := by
    cases position with
    | zero =>
        cases isAt
        cases queryAt
        cases rowAt
        exact first
    | succ position =>
        rw [List.getElem?_cons_succ] at isAt queryAt rowAt
        rw [← answerTo_tail]
        exact rest.each position other otherQuery otherRow isAt queryAt rowAt

/-- None of the updates that are carried out in turn fails in its place. -/
theorem CarriedOutInTurn.not_stops
    {updates rows : List Value}
    {responses : List Response}
    {queries : List Query}
    (inTurn : CarriedOutInTurn table idField updates responses queries rows)
    {position : Nat}
    {update : Value}
    (isAt : updates[position]? = some update) :
    ¬ Stops table idField update (answerTo responses position) := by
  have inside : position < updates.length := (List.getElem?_eq_some_iff.mp isAt).1
  have insideQueries : position < queries.length := inTurn.oneQueryEach ▸ inside
  have insideRows : position < rows.length := inTurn.oneRowEach ▸ inside
  exact (inTurn.each position update queries[position] rows[position] isAt
    (List.getElem?_eq_getElem insideQueries) (List.getElem?_eq_getElem insideRows)).not_stops

/-- Updates one after another are carried out in turn, all of them or those before one that
fails. -/
theorem updatesEnd_updateEach
    (updates : List Value)
    (session : Session) :
    UpdatesEnd table idField updates session
      ((updateEach table idField updates).run session) := by
  -- The updates after the first meet the responses after the first.
  induction updates generalizing session with
  | nil =>
      exact .carriedOut (.nil _) (List.append_nil _).symm rfl
  | cons update rest inductionHypothesis =>
      unfold updateEach
      rw [run_bind]
      have ends :
          UpdateEnds table idField update session
            ((applyUpdate table idField update).run session) :=
        updateEnds_applyUpdate update session
      generalize (applyUpdate table idField update).run session = first at ends ⊢
      cases ends with
      | stopped stops grows quiet =>
          rw [Session.answer_eq] at stops
          exact .stopped List.getElem?_cons_zero (.nil _) stops grows quiet
      | @carriedOut query row carries =>
          rw [Session.answer_eq] at carries
          have restEnds := inductionHypothesis (session.pass query)
          dsimp only
          rw [run_bind]
          generalize (updateEach table idField rest).run (session.pass query) = later at restEnds ⊢
          cases restEnds with
          | carriedOut inTurn grows quiet =>
              refine .carriedOut (.cons carries inTurn) ?_ quiet
              rw [grows]
              exact List.append_assoc _ _ _
          | @stopped position _ _ _ _ _ _ isAt inTurn stops grows quiet =>
              have sameAnswer :
                  answerTo (session.pass query).responses position =
                    answerTo session.responses (position + 1) :=
                answerTo_tail _ _
              rw [sameAnswer] at stops
              rw [← List.getElem?_cons_succ (a := update)] at isAt
              refine .stopped isAt (.cons carries inTurn) stops ?_ quiet
              rw [grows]
              exact List.append_assoc _ _ _

/-- Updating many rows comes to what the updates come to, and logs their failure. -/
theorem outcome_updateMany
    {listed : Value}
    {updates : List Value}
    (lists : listed.items? = .ok updates)
    (responses : List Response) :
    (∃ queries rows,
      CarriedOutInTurn table idField updates responses queries rows ∧
        Outcome.ofWork ((updateMany table listed idField).run (.start responses)) =
          ⟨.ok (.list rows), queries, []⟩) ∨
      ∃ position update queries rows last error,
        updates[position]? = some update ∧
          CarriedOutInTurn table idField (updates.take position) responses queries rows ∧
          StopsWith table idField update (answerTo responses position) last error ∧
          Outcome.ofWork ((updateMany table listed idField).run (.start responses)) =
            ⟨.error (.access error), queries ++ last, [failureRecord .updateMany table error]⟩ := by
  unfold updateMany logged
  rw [run_tryCatch, run_bind, run_orMisfit, lists]
  dsimp only
  rw [run_bind]
  have ends :
      UpdatesEnd table idField updates (.start responses)
        ((updateEach table idField updates).run (.start responses)) :=
    updatesEnd_updateEach updates (.start responses)
  generalize (updateEach table idField updates).run (.start responses) = ended at ends ⊢
  cases ends with
  | @carriedOut queries rows _ inTurn grows quiet =>
      refine .inl ⟨queries, rows, inTurn, ?_⟩
      simp [run_pure, Outcome.ofWork_ok, grows, quiet, Session.start]
  | @stopped position update queries last rows error _ isAt inTurn stops grows quiet =>
      refine .inr ⟨position, update, queries, rows, last, error, isAt, inTurn, stops, ?_⟩
      simp [run_failLogged, Outcome.ofWork_error, grows, quiet, Session.start]

/-- The first of the updates that cannot be carried out. -/
structure IsFirstStop
    (table idField : Value)
    (updates : List Value)
    (responses : List Response)
    (position : Nat)
    (update : Value) : Prop where
  isAt : updates[position]? = some update
  stops : Stops table idField update (answerTo responses position)
  noneBefore :
    ∀ earlier < position, ∀ other,
      updates[earlier]? = some other → ¬ Stops table idField other (answerTo responses earlier)

/-- Where updates in turn end with a failure, there the first of them that cannot be carried out
is. -/
theorem IsFirstStop.position_eq
    {updates rows : List Value}
    {responses : List Response}
    {queries : List Query}
    {position stopped : Nat}
    {update other : Value}
    (isFirst : IsFirstStop table idField updates responses position update)
    (isAt : updates[stopped]? = some other)
    (inTurn : CarriedOutInTurn table idField (updates.take stopped) responses queries rows)
    (stops : Stops table idField other (answerTo responses stopped)) :
    stopped = position ∧ other = update := by
  rcases Nat.lt_trichotomy stopped position with isBefore | isHere | isAfter
  · exact (isFirst.noneBefore stopped isBefore other isAt stops).elim
  · subst isHere
    exact ⟨rfl, Option.some.inj (isAt.symm.trans isFirst.isAt)⟩
  · have isDone : (updates.take stopped)[position]? = some update := by
      rw [List.getElem?_take_of_lt isAfter, isFirst.isAt]
    exact (inTurn.not_stops isDone isFirst.stops).elim

end Updates

/-- Updating many rows goes through the updates whatever makes one of them fail. If none does, it
yields the rows that came back, after one query for each update. Otherwise it fails as the first of
them does, after the queries for those before it and what this one came to. -/
theorem updateMany_ends_at_first_stop
    {generated : GeneratedClass}
    {arguments : Calls.Arguments}
    {bound : Calls.Bound}
    (fits : Calls.bind (generated.primitiveCallee .updateMany) arguments = .ok bound)
    {updates : List Value}
    (listed : (bound.get "updates").items? = .ok updates)
    (responses : List Response) :
    ((∀ position update,
        updates[position]? = some update →
        ¬ Stops (bound.get "table_name") (bound.get "id_field") update
          (answerTo responses position)) →
      ∃ queries rows,
        CarriedOutInTurn (bound.get "table_name") (bound.get "id_field") updates responses
          queries rows ∧
        generated.callPrimitive .updateMany arguments responses =
          ⟨.ok (.list rows), queries, []⟩) ∧
    ∀ position update,
      IsFirstStop (bound.get "table_name") (bound.get "id_field") updates responses position
        update →
      ∃ queries rows last error,
        CarriedOutInTurn (bound.get "table_name") (bound.get "id_field")
          (updates.take position) responses queries rows ∧
        StopsWith (bound.get "table_name") (bound.get "id_field") update
          (answerTo responses position) last error ∧
        generated.callPrimitive .updateMany arguments responses =
          ⟨.error (.access error), queries ++ last,
            [failureRecord .updateMany (bound.get "table_name") error]⟩ := by
  have runs :
      generated.callPrimitive .updateMany arguments responses =
        .ofWork ((updateMany (bound.get "table_name") (bound.get "updates")
          (bound.get "id_field")).run (.start responses)) := by
    rw [GeneratedClass.callPrimitive, fits]
    rfl
  rw [runs]
  rcases outcome_updateMany listed responses with
    ⟨queries, rows, inTurn, comesTo⟩ |
      ⟨stopped, other, queries, rows, last, error, isAt, inTurn, stops, comesTo⟩
  · constructor
    · exact fun _ => ⟨queries, rows, inTurn, comesTo⟩
    · intro position update isFirst
      exact (inTurn.not_stops isFirst.isAt isFirst.stops).elim
  · constructor
    · intro noneStops
      exact (noneStops stopped other isAt ⟨last, error, stops⟩).elim
    · intro position update isFirst
      obtain ⟨rfl, rfl⟩ := isFirst.position_eq isAt inTurn ⟨last, error, stops⟩
      exact ⟨queries, rows, last, error, inTurn, stops, comesTo⟩

/-- The update that gives the row with this number a name. -/
def namingUpdate
    (recordId : Int)
    (name : String) : Value :=
  .map [(.text "id", .int recordId), (.text "data", .map [(.text "name", .text name)])]

/-- Three updates, the second of which the client refuses. The third would be carried out. -/
theorem updateMany_ends_at_first_stop_of_three :
    ∃ queries rows last error,
      CarriedOutInTurn (.text "posts") (.text "id") [namingUpdate 1 "a"]
          [.data (.list [.int 1]), .refusal (.text "busy"), .data (.list [.int 3])]
          queries rows ∧
        StopsWith (.text "posts") (.text "id") (namingUpdate 2 "b") (.refusal (.text "busy"))
          last error ∧
        GeneratedClass.callPrimitive ⟨"SupabaseApi", []⟩ .updateMany
            ⟨[.text "posts", .list [namingUpdate 1 "a", namingUpdate 2 "b", namingUpdate 3 "c"]],
              []⟩
            [.data (.list [.int 1]), .refusal (.text "busy"), .data (.list [.int 3])] =
          ⟨.error (.access error), queries ++ last,
            [failureRecord .updateMany (.text "posts") error]⟩ := by
  have isFirst :
      IsFirstStop (.text "posts") (.text "id")
        [namingUpdate 1 "a", namingUpdate 2 "b", namingUpdate 3 "c"]
        [.data (.list [.int 1]), .refusal (.text "busy"), .data (.list [.int 3])] 1
        (namingUpdate 2 "b") := by
    refine ⟨rfl, ⟨_, _, .refused rfl rfl rfl rfl⟩, fun earlier isBefore other isAt => ?_⟩
    rw [Nat.lt_one_iff.mp isBefore] at isAt ⊢
    cases isAt
    exact IsCarriedOut.not_stops (.intro rfl rfl rfl rfl rfl)
  have fits :
      Calls.bind (GeneratedClass.primitiveCallee ⟨"SupabaseApi", []⟩ .updateMany)
          ⟨[.text "posts", .list [namingUpdate 1 "a", namingUpdate 2 "b", namingUpdate 3 "c"]],
            []⟩ =
        .ok
          ⟨[("table_name", .text "posts"),
            ("updates", .list [namingUpdate 1 "a", namingUpdate 2 "b", namingUpdate 3 "c"]),
            ("id_field", .text "id")], []⟩ :=
    rfl
  exact (updateMany_ends_at_first_stop fits rfl _).2 1 _ isFirst

end Tablewright.Access
