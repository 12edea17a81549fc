import Tablewright.Proofs.Access.Filter
import Tablewright.Proofs.Access.Forwarding
import Tablewright.Proofs.Methods.NormalForms

/-!
# Changes that are confined to a row

A query that changes or removes rows does this to rows with one value in one column, whatever a
class is asked for. The row is the one that the call names, and the table is that of the call, as
long as no method comes to update a row of another table because it calls its primitive by name.
-/

namespace Tablewright.Access

open Methods

/-- Whether the part changes or removes rows. -/
def QueryPart.changesRows : QueryPart → Bool
  | .update _ => true
  | .delete => true
  | _ => false

/-- Whether the part changes anything. -/
def QueryPart.writes : QueryPart → Bool
  | .insert _ => true
  | part => part.changesRows

/-- A change to one row that the values of the parameters of a primitive ask for. -/
inductive Asks
    (bound : Calls.Bound) : Primitive → QueryPart → Value → Prop where
  | update :
      Asks bound .update (.update (bound.get "data")) (bound.get "record_id")
  | updateMany
      {updates : List Value}
      {update changes recordId : Value}
      (lists : (bound.get "updates").items? = .ok updates)
      (member : update ∈ updates)
      (names : update.atKey "id" = .ok recordId)
      (gives : update.atKey "data" = .ok changes) :
      Asks bound .updateMany (.update changes) recordId
  | delete :
      Asks bound .delete .delete (bound.get "record_id")

/-- The query does what a call of the primitive is for: it goes to the table, reads only if the
primitive does, and if it is executed and changes rows then just the one of a change asked for. -/
structure Query.IsWithin
    (query : Query)
    (primitive : Primitive)
    (table : Value)
    (bound : Calls.Bound) : Prop where
  ownTable : query.table = table
  readsOnly : primitive ∈ [.getAll, .getById] → ∀ part ∈ query.parts, part.writes = false
  asked :
    query.executed = true →
    ∀ part ∈ query.parts,
      part.changesRows = true →
      ∃ change recordId,
        Asks bound primitive change recordId ∧
          query.parts =
            [change, .compare .equal (keyColumn (bound.get "id_field")) recordId]

/-- If the query is executed and changes rows, then just those with one value in one column. -/
def Query.IsConfined
    (query : Query) : Prop :=
  query.executed = true →
  ∀ part ∈ query.parts,
    part.changesRows = true →
    ∃ column recordId, query.parts = [part, .compare .equal column recordId]

theorem Query.IsWithin.isConfined
    {query : Query}
    {primitive : Primitive}
    {table : Value}
    {bound : Calls.Bound}
    (within : query.IsWithin primitive table bound) :
    query.IsConfined := by
  intro executed part member changes
  obtain ⟨change, recordId, -, inFull⟩ := within.asked executed part member changes
  rw [inFull] at member
  rcases List.mem_pair.mp member with rfl | rfl
  · exact ⟨_, recordId, inFull⟩
  · cases changes

section Primitives

variable {primitive : Primitive}
variable {table : Value}
variable {bound : Calls.Bound}

/-- What sends a query that writes nothing keeps within any call for the table. -/
theorem keeps_send_reading
    {draft : Draft}
    (reads : ∀ part ∈ draft.parts, part.writes = false) :
    Keeps (fun query => query.IsWithin primitive table bound) (send table draft) := by
  have within :
      ∀ parts executed,
        parts ⊆ draft.parts →
        Query.IsWithin ⟨table, parts, executed⟩ primitive table bound := by
    intro parts executed among
    refine ⟨rfl, fun _ part member => reads part (among member), ?_⟩
    intro _ part member changes
    have writesNothing := reads part (among member)
    cases part <;> cases changes <;> cases writesNothing
  exact .send (fun parts isPrefix => within parts false isPrefix.subset)
    fun _ => within draft.parts true (List.Subset.refl _)

/-- A query of a primitive that does not only read keeps within the call when it changes no rows. -/
theorem keeps_send_inserting
    (writing : primitive ∉ [.getAll, .getById])
    {draft : Draft}
    (inserts : ∀ part ∈ draft.parts, part.changesRows = false) :
    Keeps (fun query => query.IsWithin primitive table bound) (send table draft) := by
  apply Keeps.send
  · exact fun _ _ => ⟨rfl, fun reading => (writing reading).elim, nofun⟩
  · intro _
    refine ⟨rfl, fun reading => (writing reading).elim, fun _ part member changes => ?_⟩
    rw [inserts part member] at changes
    cases changes

/-- A query for a change that is asked for keeps within the call. It is not executed before the row
is picked. -/
theorem keeps_send_changing
    (writing : primitive ∉ [.getAll, .getById])
    {change : QueryPart}
    {recordId : Value}
    (asks : Asks bound primitive change recordId) :
    Keeps (fun query => query.IsWithin primitive table bound)
      (send table (.ofParts [change, rowPart (bound.get "id_field") recordId])) := by
  apply Keeps.send
  · exact fun _ _ => ⟨rfl, fun reading => (writing reading).elim, nofun⟩
  · exact fun _ =>
      ⟨rfl, fun reading => (writing reading).elim, fun _ _ _ _ => ⟨change, recordId, asks, rfl⟩⟩

theorem Keeps.firstRow
    {allowed : Query → Prop}
    (rows : Value)
    (message : String) :
    Keeps allowed (firstRow rows message) := by
  unfold Access.firstRow
  split
  · exact .orMisfit _
  · exact .throw _

theorem keeps_updateEach
    {updates : List Value}
    (writing : primitive ∉ [.getAll, .getById])
    (asked :
      ∀ update ∈ updates, ∀ recordId changes,
        update.atKey "id" = .ok recordId →
        update.atKey "data" = .ok changes →
        Asks bound primitive (.update changes) recordId) :
    Keeps (fun query => query.IsWithin primitive table bound)
      (updateEach table (bound.get "id_field") updates) := by
  induction updates with
  | nil =>
      exact .pure []
  | cons update rest inductionHypothesis =>
      obtain ⟨askedFirst, askedRest⟩ := List.forall_mem_cons.mp asked
      have first :
          Keeps (fun query => query.IsWithin primitive table bound)
            (applyUpdate table (bound.get "id_field") update) := by
        refine .orMisfit_bind fun recordId names => .orMisfit_bind fun changes gives => ?_
        exact .bind (keeps_send_changing writing (askedFirst recordId changes names gives))
          fun rows => .firstRow rows _
      exact .bind first fun _ => .bind (inductionHypothesis askedRest) fun _ => .pure _

theorem Draft.mem_or_mem_of_andThen
    {draft more : Draft}
    {part : QueryPart}
    (member : part ∈ (draft.andThen more).parts) :
    part ∈ draft.parts ∨ part ∈ more.parts := by
  unfold andThen at member
  split at member
  · exact .inl member
  · exact List.mem_append.mp member

theorem writes_eq_false_of_mem_getAllDraft
    {select filters limit page : Value}
    {part : QueryPart}
    (member : part ∈ (getAllDraft select filters limit page).parts) :
    part.writes = false := by
  rcases Draft.mem_or_mem_of_andThen member with inFront | inPage
  · rcases Draft.mem_or_mem_of_andThen inFront with isSelect | inFilter
    · rw [List.mem_singleton.mp isSelect]
      rfl
    · obtain ⟨_, _, _, rfl⟩ := exists_column_of_mem_filterDraft inFilter
      rfl
  · obtain ⟨_, _, rfl⟩ := isRange_of_mem_pageDraft inPage
    rfl

/-- The work of a primitive keeps within its call. -/
theorem keeps_perform
    (primitive : Primitive)
    (table : Value)
    (bound : Calls.Bound) :
    Keeps (fun query => query.IsWithin primitive table bound)
      (perform primitive table bound) := by
  cases primitive
  case getAll =>
    refine .logged (.bind (keeps_send_reading fun part member => ?_) fun _ => .pure _)
    exact writes_eq_false_of_mem_getAllDraft member
  case getById =>
    refine .tryCatch (keeps_send_reading fun part member => ?_) fun error => ?_
    · simp only [Draft.ofParts, List.mem_cons, List.not_mem_nil, or_false] at member
      rcases member with rfl | rfl | rfl <;> rfl
    · split
      · exact .pure _
      · exact .failLogged _ _ _
  case create =>
    refine .logged (.bind (keeps_send_inserting (by decide) fun part member => ?_)
      fun rows => .firstRow rows _)
    rw [List.mem_singleton.mp member]
    rfl
  case createMany =>
    refine .logged (.bind (keeps_send_inserting (by decide) fun part member => ?_)
      fun _ => .pure _)
    cases listed : (bound.get "data").items? with
    | error fault =>
        rw [listed] at member
        cases member
    | ok items =>
        rw [listed] at member
        rw [List.mem_singleton.mp member]
        rfl
  case update =>
    exact .logged (.bind (keeps_send_changing (by decide) .update) fun rows => .firstRow rows _)
  case updateMany =>
    refine .logged (.orMisfit_bind fun updates lists => .bind ?_ fun _ => .pure _)
    exact keeps_updateEach (by decide) fun update member recordId changes names gives =>
      .updateMany lists member names gives
  case delete =>
    exact .logged (.bind (keeps_send_changing (by decide) .delete) fun _ => .pure _)

theorem isWithin_of_mem_runPrimitive
    {responses : List Response}
    {query : Query}
    (member : query ∈ (runPrimitive primitive table bound responses).queries) :
    query.IsWithin primitive table bound :=
  keeps_perform primitive table bound (.start responses) (fun _ isNone => by cases isNone) query
    member

end Primitives

/-- What a call is for: the primitive, the table, and the values of the parameters. -/
inductive GeneratedClass.Means
    (generated : GeneratedClass)
    (request : Call) : Primitive → Value → Calls.Bound → Prop where
  | primitive
      {primitive : Primitive}
      {bound : Calls.Bound}
      (found : generated.find? request.method = some (.primitive primitive))
      (fits : Calls.bind (generated.primitiveCallee primitive) request.arguments = .ok bound) :
      Means generated request primitive (bound.get "table_name") bound
  | method
      {method : Forwarder}
      {bound : Calls.Bound}
      (found : generated.find? request.method = some (.method method))
      (fits : Calls.bind (generated.methodCallee method) request.arguments = .ok bound) :
      Means generated request method.primitive (.text method.table) bound

/-- The name stands for a method that comes to update a row of the table of another method, because
that has the name of its primitive. -/
structure GeneratedClass.Diverts
    (generated : GeneratedClass)
    (name : String)
    (method shadow : Forwarder) : Prop where
  found : generated.find? name = some (.method method)
  takesLess : method.primitive ∈ [.create, .createMany, .updateMany, .delete]
  shadowed : generated.find? method.primitive.name = some (.method shadow)
  isUpdate : shadow.primitive = .update
  reaches : generated.find? Primitive.update.name = some (.primitive .update)

/-- What a call comes to: it is refused, or runs what it is for, or a method diverts it. -/
inductive GeneratedClass.ComesTo
    (generated : GeneratedClass)
    (request : Call) : Outcome → Prop where
  | refused
      (error : CallError) :
      ComesTo generated request (.refused error)
  | meant
      {primitive : Primitive}
      {table : Value}
      {bound : Calls.Bound}
      (means : generated.Means request primitive table bound) :
      ComesTo generated request (runPrimitive primitive table bound request.responses)
  | diverted
      {method shadow : Forwarder}
      (diverts : generated.Diverts request.method method shadow)
      (bound : Calls.Bound) :
      ComesTo generated request
        (runPrimitive .update (.text shadow.table) bound request.responses)

theorem comesTo_call
    (generated : GeneratedClass)
    (request : Call) :
    generated.ComesTo request (generated.call request) := by
  unfold GeneratedClass.call
  cases found : generated.find? request.method with
  | none =>
      rw [GeneratedClass.callNamed, found]
      exact .refused _
  | some target =>
      cases target with
      | primitive primitive =>
          rw [callNamed_of_primitive found, GeneratedClass.callPrimitive]
          split
          · exact .refused _
          · next bound fits =>
              exact .meant (.primitive found fits)
      | method method =>
          cases fits : Calls.bind (generated.methodCallee method) request.arguments with
          | error error =>
              rw [callNamed_of_method found, fits]
              exact .refused _
          | ok bound =>
              rcases find?_primitive generated method.primitive with
                isPrimitive | ⟨shadow, shadowed⟩
              · rw [callNamed_eq_runPrimitive found isPrimitive fits]
                exact .meant (.method found fits)
              · rcases callNamed_of_shadow found shadowed fits request.responses with
                  ⟨error, isRefused⟩ | ⟨isUpdate, takesLess, reaches, passed, updates⟩
                · rw [isRefused]
                  exact .refused _
                · rw [isUpdate] at reaches
                  rw [updates]
                  exact .diverted ⟨found, takesLess, shadowed, isUpdate, reaches⟩ passed

/-- A diverted call with one argument makes a query that changes a row of the table of the other
method. -/
theorem GeneratedClass.Diverts.exists_query
    {generated : GeneratedClass}
    {name : String}
    {method shadow : Forwarder}
    (diverts : generated.Diverts name method shadow)
    (argument : Value) :
    ∃ changes rest,
      ⟨.text shadow.table, .update changes :: rest, true⟩ ∈
        (generated.call ⟨name, ⟨[argument], []⟩, []⟩).queries := by
  obtain ⟨found, takesLess, shadowed, isUpdate, reaches⟩ := diverts
  obtain ⟨methodName, table, primitive⟩ := method
  obtain ⟨shadowName, shadowTable, shadowPrimitive⟩ := shadow
  dsimp only at takesLess shadowed isUpdate
  subst isUpdate
  have fits :
      ∃ bound shadowBound,
        Calls.bind (generated.methodCallee ⟨methodName, table, primitive⟩) ⟨[argument], []⟩ =
            .ok bound ∧
          Calls.bind (generated.methodCallee ⟨shadowName, shadowTable, .update⟩)
              (passedOn ⟨methodName, table, primitive⟩ bound) = .ok shadowBound := by
    simp only [List.mem_cons, List.not_mem_nil, or_false] at takesLess
    rcases takesLess with rfl | rfl | rfl | rfl <;> exact ⟨_, _, rfl, rfl⟩
  obtain ⟨bound, shadowBound, fits, shadowFits⟩ := fits
  rw [GeneratedClass.call, callNamed_of_method found, fits]
  dsimp only
  rw [callNamed_eq_runPrimitive shadowed reaches shadowFits]
  exact ⟨_, _, List.mem_singleton.mpr rfl⟩

/-- What a diverted call comes to is not what it is for. -/
theorem GeneratedClass.Diverts.not_isWithin
    {generated : GeneratedClass}
    {name : String}
    {method shadow : Forwarder}
    (diverts : generated.Diverts name method shadow) :
    ∃ query ∈ (generated.call ⟨name, ⟨[.list []], []⟩, []⟩).queries,
      ∀ primitive table bound,
        generated.Means ⟨name, ⟨[.list []], []⟩, []⟩ primitive table bound →
        ¬ query.IsWithin primitive table bound := by
  obtain ⟨changes, rest, member⟩ := diverts.exists_query (.list [])
  refine ⟨_, member, fun primitive table bound means within => ?_⟩
  obtain ⟨found, takesLess, -, -, -⟩ := diverts
  obtain ⟨change, recordId, asks, inFull⟩ :=
    within.asked rfl (.update changes) List.mem_cons_self rfl
  cases means with
  | primitive isPrimitive _ =>
      rw [found] at isPrimitive
      cases isPrimitive
  | @method other _ isOther fits =>
      rw [found] at isOther
      cases isOther
      obtain ⟨methodName, table, primitive⟩ := method
      dsimp only at asks takesLess
      cases asks with
      | update =>
          simp at takesLess
      | updateMany lists isAny _ _ =>
          -- There are no updates in the list that the call is given.
          cases fits
          cases lists
          cases isAny
      | delete =>
          cases inFull

/-- The queries of calls one after another, each with its call. -/
def GeneratedClass.trace
    (generated : GeneratedClass)
    (requests : List Call) : List (Call × Query) :=
  requests.flatMap fun request =>
    (generated.call request).queries.map fun query => (request, query)

section Traces

variable {generated : GeneratedClass}
variable {requests : List Call}
variable {entry : Call × Query}

/-- An entry of a trace is a query of its call. -/
theorem mem_queries_of_mem_trace
    (member : entry ∈ generated.trace requests) :
    entry.2 ∈ (generated.call entry.1).queries := by
  obtain ⟨request, -, isEntry⟩ := List.mem_flatMap.mp member
  obtain ⟨query, isQuery, rfl⟩ := List.mem_map.mp isEntry
  exact isQuery

/-- A query of a call is within what the call is for, or the call is diverted. -/
theorem isWithin_or_diverts
    (member : entry ∈ generated.trace requests) :
    (∃ primitive table bound,
        generated.Means entry.1 primitive table bound ∧
          entry.2.IsWithin primitive table bound) ∨
      ∃ method shadow bound,
        generated.Diverts entry.1.method method shadow ∧
          entry.2.IsWithin .update (.text shadow.table) bound := by
  have isQuery := mem_queries_of_mem_trace member
  have comesTo := comesTo_call generated entry.1
  generalize generated.call entry.1 = outcome at isQuery comesTo
  cases comesTo with
  | refused _ => cases isQuery
  | meant means => exact .inl ⟨_, _, _, means, isWithin_of_mem_runPrimitive isQuery⟩
  | diverted diverts bound =>
      exact .inr ⟨_, _, bound, diverts, isWithin_of_mem_runPrimitive isQuery⟩

theorem isConfined_of_mem_trace
    (member : entry ∈ generated.trace requests) :
    entry.2.IsConfined := by
  rcases isWithin_or_diverts member with ⟨_, _, _, _, within⟩ | ⟨_, _, _, _, within⟩
  · exact within.isConfined
  · exact within.isConfined

/-- Queries are within what their calls are for exactly when no method diverts calls. -/
theorem forall_isWithin_iff
    (generated : GeneratedClass) :
    (∀ requests, ∀ entry ∈ generated.trace requests,
        ∃ primitive table bound,
          generated.Means entry.1 primitive table bound ∧
            entry.2.IsWithin primitive table bound) ↔
      ∀ name method shadow, ¬ generated.Diverts name method shadow := by
  constructor
  · intro allWithin name method shadow diverts
    obtain ⟨query, isQuery, notWithin⟩ := diverts.not_isWithin
    have member :
        (⟨name, ⟨[.list []], []⟩, []⟩, query) ∈
          generated.trace [⟨name, ⟨[.list []], []⟩, []⟩] := by
      refine List.mem_flatMap.mpr ⟨_, List.mem_singleton.mpr rfl, ?_⟩
      exact List.mem_map_of_mem isQuery
    obtain ⟨primitive, table, bound, means, within⟩ := allWithin _ _ member
    exact notWithin primitive table bound means within
  · intro noneDiverts requests entry member
    rcases isWithin_or_diverts member with within | ⟨method, shadow, _, diverts, _⟩
    · exact within
    · exact (noneDiverts _ method shadow diverts).elim

end Traces

/-- What a name stands for, if that is a method, is a method of that name. -/
theorem GeneratedClass.mem_of_find?
    {generated : GeneratedClass}
    {name : String}
    {method : Forwarder}
    (found : generated.find? name = some (.method method)) :
    method ∈ generated.methods ∧ method.name = name := by
  unfold find? at found
  split at found
  · next finds =>
      cases found
      refine ⟨List.mem_reverse.mp (List.mem_of_find?_eq_some finds), ?_⟩
      simpa using List.find?_some finds
  · obtain ⟨_, _, isPrimitive⟩ := Option.map_eq_some_iff.mp found
    cases isPrimitive

section Blocks

variable {plan : NamingPlan}
variable {tables : List String}
variable {blocks : List MethodBlock}

/-- A method of a class that has the name of a primitive for updates is one that updates a row. -/
theorem isUpdate_of_mem_methods
    {className : String}
    {shadow : Forwarder}
    (member : shadow ∈ (GeneratedClass.ofBlocks className blocks).methods)
    (isOther : shadow.name = Primitive.updateMany.name ∨ shadow.name = Primitive.update.name) :
    ∃ block ∈ blocks,
      asKnown ⟨methodName block.style block.forms .update, block.table, .update⟩ = shadow := by
  obtain ⟨method, methodMember, rfl⟩ := List.mem_map.mp member
  obtain ⟨block, blockMember, primitive, rfl⟩ := mem_forwardersOf_iff.mp methodMember
  have beginsLikeUpdate : primitive.initial = 'u' := by
    rcases isOther with sameName | sameName
    all_goals
      have initial := initial_eq_of_normalForm sameName
      exact (Option.some.inj initial).symm
  cases primitive with
  | update => exact ⟨block, blockMember, rfl⟩
  | updateMany => exact (normalForm_updateMany_ne isOther rfl).elim
  | getAll | getById | create | createMany | delete => cases beginsLikeUpdate

/-- No method of a class has the name of updating a row. -/
theorem find?_update
    (made : blocksOf plan tables = .ok blocks)
    (className : String) :
    (GeneratedClass.ofBlocks className blocks).find? Primitive.update.name =
      some (.primitive .update) := by
  refine find?_primitive_iff.mpr fun method member sameName => ?_
  obtain ⟨block, blockMember, rfl⟩ := isUpdate_of_mem_methods member (.inr sameName)
  have sameBefore := methodName_eq_of_normalForm_update sameName
  -- The name is refused before it is put in normal form.
  have faultless := (MethodBlock.eq_of_ofTable (ofTable_of_mem made blockMember)).2.2.2
  have noFault :=
    List.findSome?_eq_none_iff.mp faultless _ (methodName_mem_names block .update)
  rw [sameBefore] at noFault
  revert noFault
  decide

/-- The last of the methods that update many rows is not replaced: only one that deletes a row comes
after it. -/
theorem exists_find?_updateMany
    (notEmpty : blocks ≠ [])
    (className : String) :
    ∃ method,
      method.primitive = .updateMany ∧
        (GeneratedClass.ofBlocks className blocks).find? method.name = some (.method method) := by
  obtain ⟨earlier, block, isLast⟩ := (List.eq_nil_or_concat blocks).resolve_left notEmpty
  have inOrder :
      ∃ rest,
        (GeneratedClass.ofBlocks className blocks).methods.reverse =
          asKnown ⟨methodName block.style block.forms .delete, block.table, .delete⟩ ::
            asKnown ⟨methodName block.style block.forms .updateMany, block.table, .updateMany⟩ ::
              rest := by
    rw [methods_ofBlocks, isLast]
    simp [forwardersOf, MethodBlock.forwarders, Primitive.all]
  obtain ⟨rest, inOrder⟩ := inOrder
  have otherName :
      Text.normalForm (methodName block.style block.forms .delete) ≠
        Text.normalForm (methodName block.style block.forms .updateMany) := by
    intro sameName
    have initial := initial_eq_of_normalForm sameName
    rw [head?_normalForm_methodName] at initial
    cases initial
  refine
    ⟨asKnown ⟨methodName block.style block.forms .updateMany, block.table, .updateMany⟩, rfl, ?_⟩
  rw [GeneratedClass.find?, inOrder]
  simp [asKnown, otherName]

/-- Calls are diverted exactly when a method that updates a row is called like updating many
rows. -/
theorem exists_diverts_iff
    (made : blocksOf plan tables = .ok blocks)
    (className : String) :
    (∃ name method shadow,
        (GeneratedClass.ofBlocks className blocks).Diverts name method shadow) ↔
      ∃ method ∈ forwardersOf blocks,
        method.primitive = .update ∧
          Text.normalForm method.name = Primitive.updateMany.name := by
  constructor
  · rintro ⟨name, method, shadow, -, takesLess, shadowed, isUpdate, -⟩
    obtain ⟨member, sameName⟩ := GeneratedClass.mem_of_find? shadowed
    obtain ⟨known, knownMember, rfl⟩ := List.mem_map.mp member
    refine ⟨known, knownMember, isUpdate, ?_⟩
    obtain ⟨block, -, primitive, rfl⟩ := mem_forwardersOf_iff.mp knownMember
    -- The name begins like those of updates, and so does that of the primitive.
    have initial := initial_eq_of_normalForm sameName
    cases isUpdate
    have isUpdateMany : method.primitive = .updateMany := by
      simp only [List.mem_cons, List.not_mem_nil, or_false] at takesLess
      rcases takesLess with other | other | other | other
      case inr.inr.inl => exact other
      all_goals
        rw [other] at initial
        cases initial
    rw [← isUpdateMany]
    exact sameName
  · rintro ⟨method, member, -, sameName⟩
    have known : asKnown method ∈ (GeneratedClass.ofBlocks className blocks).methods :=
      List.mem_map_of_mem member
    obtain ⟨shadow, shadowMember, isNamed, shadowed⟩ := GeneratedClass.exists_find? known
    have knownName : (asKnown method).name = Primitive.updateMany.name := sameName
    rw [knownName] at isNamed shadowed
    obtain ⟨block, blockMember, rfl⟩ := isUpdate_of_mem_methods shadowMember (.inl isNamed)
    obtain ⟨many, isUpdateMany, found⟩ :=
      exists_find?_updateMany (List.ne_nil_of_mem blockMember) className
    rw [← isUpdateMany] at shadowed
    have takesLess : many.primitive ∈ [.create, .createMany, .updateMany, .delete] := by
      rw [isUpdateMany]
      decide
    exact ⟨_, many, _, found, takesLess, shadowed, rfl, find?_update made className⟩

/-- Whatever calls are made of a class, each query that changes rows and is executed does so to rows
with one value in one column. And queries are within what their calls are for, so that the row is
one that was named and the table that of the call, exactly when no method that updates a row is
called like updating many rows in normal form. -/
theorem changes_confined_iff
    (made : blocksOf plan tables = .ok blocks)
    {className : String}
    {generated : GeneratedClass}
    (defined : generated.IsDefinedBy className blocks) :
    (∀ requests, ∀ entry ∈ generated.trace requests, entry.2.IsConfined) ∧
      ((∀ requests, ∀ entry ∈ generated.trace requests,
          ∃ primitive table bound,
            generated.Means entry.1 primitive table bound ∧
              entry.2.IsWithin primitive table bound) ↔
        ∀ method ∈ forwardersOf blocks,
          method.primitive = .update →
          Text.normalForm method.name ≠ Primitive.updateMany.name) := by
  obtain ⟨-, rfl⟩ := defined
  refine ⟨fun _ _ => isConfined_of_mem_trace, ?_⟩
  rw [forall_isWithin_iff]
  have diverts := not_congr (exists_diverts_iff made className)
  push Not at diverts
  exact diverts

end Blocks

/-- Two tables none of whose methods diverts calls. -/
theorem changes_confined_iff_of_two_tables :
    ∃ blocks,
      blocksOf ⟨[], .suffix, .camel⟩ ["post", "comment"] = .ok blocks ∧
        (GeneratedClass.ofBlocks "Api" blocks).IsDefinedBy "Api" blocks ∧
        ∀ requests, ∀ entry ∈ (GeneratedClass.ofBlocks "Api" blocks).trace requests,
          ∃ primitive table bound,
            (GeneratedClass.ofBlocks "Api" blocks).Means entry.1 primitive table bound ∧
              entry.2.IsWithin primitive table bound := by
  obtain ⟨blocks, made, plain, free⟩ :=
    exists_ok_of_decide (blocksOf ⟨[], .suffix, .camel⟩ ["post", "comment"])
      (fun blocks =>
        HavePlainComments blocks ∧
          ∀ method ∈ forwardersOf blocks,
            method.primitive = .update →
            Text.normalForm method.name ≠ Primitive.updateMany.name)
      (by decide +kernel)
  have defined : (GeneratedClass.ofBlocks "Api" blocks).IsDefinedBy "Api" blocks := ⟨plain, rfl⟩
  exact ⟨blocks, made, defined, (changes_confined_iff made defined).2.mpr free⟩

/-- Updating one row of a table with a wide low line is called like updating many rows of any table.
So there is a query of this class that is not within what its call is for. -/
theorem blocksOf_wide_low_line_does_not_confine :
    ∃ blocks,
      blocksOf ⟨Naming.Overrides.builtIn, .suffix, .camel⟩ ["posts", "＿many"] = .ok blocks ∧
        (GeneratedClass.ofBlocks "SupabaseApi" blocks).IsDefinedBy "SupabaseApi" blocks ∧
        ∃ request, ∃ query ∈ ((GeneratedClass.ofBlocks "SupabaseApi" blocks).call request).queries,
          ∀ primitive table bound,
            (GeneratedClass.ofBlocks "SupabaseApi" blocks).Means request primitive table bound →
            ¬ query.IsWithin primitive table bound := by
  obtain ⟨blocks, made, plain, member⟩ :=
    exists_ok_of_decide (blocksOf ⟨Naming.Overrides.builtIn, .suffix, .camel⟩ ["posts", "＿many"])
      (fun blocks =>
        HavePlainComments blocks ∧ ⟨"update＿many", "＿many", .update⟩ ∈ forwardersOf blocks)
      (by decide +kernel)
  have sameName : Text.normalForm "update＿many" = Primitive.updateMany.name := by decide +kernel
  obtain ⟨name, method, shadow, diverts⟩ :=
    (exists_diverts_iff made "SupabaseApi").mpr ⟨_, member, rfl, sameName⟩
  obtain ⟨query, isQuery, notWithin⟩ := diverts.not_isWithin
  exact ⟨blocks, made, ⟨plain, rfl⟩, _, query, isQuery, notWithin⟩

end Tablewright.Access
