import Mathlib.Data.List.Forall2
import Mathlib.Data.List.Perm.Subperm
import Tablewright.Proofs.Access.Reading

/-!
# What a filter is translated to

Each column of a filter adds its own calls to a query, in the order of the columns. Which calls
these are is said here without regard to how they are found, and there is one translation only. So
the order of the operators in a condition does not matter, and the order of the columns is that of
their calls.
-/

namespace Tablewright

namespace Value

/-- No two keys of the entries are the same. -/
def HasDistinctKeys
    (entries : List (Value × Value)) : Prop :=
  entries.Pairwise fun entry other => sameKey entry.1 other.1 = false

/-- A text is the key of one value at most. -/
theorem HasDistinctKeys.value_eq
    {entries : List (Value × Value)}
    (distinct : HasDistinctKeys entries)
    {name : String}
    {value other : Value}
    (member : (.text name, value) ∈ entries)
    (otherMember : (.text name, other) ∈ entries) :
    value = other := by
  have sameName : sameKey (.text name) (.text name) = true := sameKey_text_iff.mpr rfl
  induction entries with
  | nil =>
      cases member
  | cons entry rest inductionHypothesis =>
      obtain ⟨apart, restDistinct⟩ := List.pairwise_cons.mp distinct
      rcases List.mem_cons.mp member with isFirst | inRest
      · rcases List.mem_cons.mp otherMember with otherIsFirst | otherInRest
        · exact (Prod.mk.inj (isFirst.trans otherIsFirst.symm)).2
        · have differ := apart _ otherInRest
          rw [← isFirst, sameName] at differ
          cases differ
      · rcases List.mem_cons.mp otherMember with otherIsFirst | otherInRest
        · have differ := apart _ inRest
          rw [← otherIsFirst, sameName] at differ
          cases differ
        · exact inductionHypothesis restDistinct inRest otherInRest

/-- What is found for a text is its value, if there is one value only. -/
theorem field?_eq_some_iff
    {entries : List (Value × Value)}
    {name : String}
    (single :
      ∀ value other,
        (.text name, value) ∈ entries →
        (.text name, other) ∈ entries →
        value = other)
    {value : Value} :
    field? name entries = some value ↔ (.text name, value) ∈ entries := by
  have found :
      ∀ other, field? name entries = some other → (.text name, other) ∈ entries := by
    intro other isFound
    obtain ⟨entry, finds, rfl⟩ := Option.map_eq_some_iff.mp isFound
    have isSame : sameKey entry.1 (.text name) = true := by
      simpa using List.find?_some finds
    have isName : entry.1 = .text name := sameKey_text_iff.mp isSame
    have member : entry ∈ entries := List.mem_of_find?_eq_some finds
    rwa [← isName]
  constructor
  · exact found value
  · intro member
    have isKey : Value.text name ∈ entries.map Prod.fst := List.mem_map_of_mem member
    have isSome : (field? name entries).isSome = true := isSome_field?_iff.mpr isKey
    obtain ⟨other, isFound⟩ := Option.isSome_iff_exists.mp isSome
    rw [isFound, single other value (found other isFound) member]

/-- The order of entries with distinct keys does not matter for what is found. -/
theorem HasDistinctKeys.field?_eq_of_perm
    {entries reordered : List (Value × Value)}
    (distinct : HasDistinctKeys entries)
    (perm : reordered.Perm entries)
    (name : String) :
    field? name reordered = field? name entries := by
  apply Option.ext
  intro value
  have inEntries : field? name entries = some value ↔ (.text name, value) ∈ entries :=
    field?_eq_some_iff fun _ _ => distinct.value_eq
  have inReordered : field? name reordered = some value ↔ (.text name, value) ∈ reordered := by
    apply field?_eq_some_iff
    intro first second member otherMember
    exact distinct.value_eq (perm.mem_iff.mp member) (perm.mem_iff.mp otherMember)
  exact inReordered.trans (perm.mem_iff.trans inEntries.symm)

/-- The value is a collection of these items. -/
inductive IsCollectionOf : Value → List Value → Prop where
  | list (items : List Value) : IsCollectionOf (.list items) items
  | set (items : List Value) : IsCollectionOf (.set items) items
  | pair (first second : Value) : IsCollectionOf (.pair first second) [first, second]

theorem IsCollectionOf.unique
    {value : Value}
    {items others : List Value}
    (collects : value.IsCollectionOf items)
    (otherCollects : value.IsCollectionOf others) :
    items = others := by
  cases collects <;> cases otherCollects <;> rfl

/-- A condition that is compared as it is: neither absence nor a collection nor a mapping. -/
structure IsSingle
    (condition : Value) : Prop where
  present : condition ≠ .null
  noCollection : ∀ items, ¬ condition.IsCollectionOf items
  noMapping : ∀ conditions, condition ≠ .map conditions

end Value

namespace Access

/-- The call that an operator with its operand asks for. Absence is what nothing is compared with by
sameness. -/
inductive AppliesOperator
    (column : Value) : Value × Value → QueryCall → Prop where
  | comparison
      {operator : String}
      {operand : Value}
      (known : operator ∈ ["gt", "gte", "lt", "lte", "neq", "like", "ilike"]) :
      AppliesOperator column (.text operator, operand) (operator, [column, operand])
  | absence :
      AppliesOperator column (.text "is", .null) ("is_", [column, .text "null"])
  | sameness
      {operand : Value}
      (present : operand ≠ .null) :
      AppliesOperator column (.text "is", operand) ("is_", [column, operand])

/-- The calls are those that the operators of a condition ask for, in the order of the operators. -/
structure TranslatesOperators
    (column : Value)
    (conditions : List (Value × Value))
    (calls : List QueryCall) : Prop where
  inOrder :
    (calls.map Prod.fst).Sublist ["gt", "gte", "lt", "lte", "neq", "like", "ilike", "is_"]
  mem_iff : ∀ call, call ∈ calls ↔ ∃ entry ∈ conditions, AppliesOperator column entry call

/-- The calls are what a condition on a column is translated to. -/
inductive Translates
    (column : Value) : Value → List QueryCall → Prop where
  | absence :
      Translates column .null [("is_", [column, .text "null"])]
  | membership
      {condition : Value}
      {items : List Value}
      (collects : condition.IsCollectionOf items) :
      Translates column condition [("in_", [column, .list items])]
  | operators
      {conditions : List (Value × Value)}
      {calls : List QueryCall}
      (translates : TranslatesOperators column conditions calls) :
      Translates column (.map conditions) calls
  | equality
      {condition : Value}
      (single : condition.IsSingle) :
      Translates column condition [("eq", [column, condition])]

/-- A column of a filter with its condition, and calls for them. -/
abbrev FilterStep := (Value × Value) × List QueryCall

/-- The steps go through the columns of a filter in order and have the calls for each. -/
structure IsTranslation
    (columns : List (Value × Value))
    (steps : List FilterStep) : Prop where
  inOrder : steps.map Prod.fst = columns
  translates : ∀ step ∈ steps, Translates step.1.1 step.1.2 step.2

/-- Whatever else a call asks for, the query that it makes has these calls for the filter, between
that for the columns and those for a page. -/
def AddsCalls
    (filters : Value)
    (calls : List QueryCall) : Prop :=
  ∀ (request : RowRequest) (generated : GeneratedClass) (arguments : Calls.Arguments)
    (responses : List Response),
    request.filters = filters →
    request.IsMadeBy generated arguments →
    ∃ query pageCalls,
      (generated.callPrimitive .getAll arguments responses).queries = [query] ∧
        (∀ call ∈ pageCalls, call.1 = "range") ∧
        query.IsMadeOf request.table (request.selectCall :: (calls ++ pageCalls)) responses

/-- Calls that ask for the same but for one or the other filter come to the same. -/
def ActAlike
    (filters others : Value) : Prop :=
  ∀ (request : RowRequest) (generated : GeneratedClass) (arguments otherArguments : Calls.Arguments)
    (responses : List Response),
    { request with filters := filters }.IsMadeBy generated arguments →
    { request with filters := others }.IsMadeBy generated otherArguments →
    generated.callPrimitive .getAll otherArguments responses =
      generated.callPrimitive .getAll arguments responses

/-- The same column with the same condition, but for the order of its operators. -/
inductive IsReordered : Value × Value → Value × Value → Prop where
  | same (entry : Value × Value) : IsReordered entry entry
  | operators
      (column : Value)
      {conditions reordered : List (Value × Value)}
      (perm : reordered.Perm conditions) :
      IsReordered (column, .map conditions) (column, .map reordered)

section Lists

variable {α β γ : Type}

/-- What a list is mapped to in part keeps the order of the list. -/
private theorem map_filterMap_sublist
    {pick : α → Option β}
    {label : β → γ}
    {tag : α → γ}
    (agrees : ∀ item picked, pick item = some picked → label picked = tag item)
    (items : List α) :
    ((items.filterMap pick).map label).Sublist (items.map tag) := by
  induction items with
  | nil =>
      exact .slnil
  | cons item rest inductionHypothesis =>
      cases picks : pick item with
      | none =>
          rw [List.filterMap_cons_none picks]
          exact inductionHypothesis.cons (tag item)
      | some picked =>
          rw [List.filterMap_cons_some picks, List.map_cons, List.map_cons,
            agrees item picked picks]
          exact inductionHypothesis.cons_cons (tag item)

/-- Lists with the same items are the same if their labels stand in one order without repetition. -/
private theorem eq_of_sublist_of_mem_iff
    {label : β → γ}
    {labels : List γ}
    (distinct : labels.Nodup)
    {items others : List β}
    (ordered : (items.map label).Sublist labels)
    (otherOrdered : (others.map label).Sublist labels)
    (same : ∀ item, item ∈ items ↔ item ∈ others) :
    items = others := by
  have labelsDistinct : (items.map label).Nodup := distinct.sublist ordered
  have otherLabelsDistinct : (others.map label).Nodup := distinct.sublist otherOrdered
  have sameItems : items.Perm others :=
    (List.perm_ext_iff_of_nodup (labelsDistinct.of_map label)
      (otherLabelsDistinct.of_map label)).mpr same
  have sameLabels : items.map label = others.map label :=
    (distinct.perm_iff_eq_of_sublist ordered otherOrdered).mp (sameItems.map label)
  apply List.ext_getElem sameItems.length_eq
  intro position isIn otherIsIn
  apply List.inj_on_of_nodup_map labelsDistinct (List.getElem_mem isIn)
  · exact (same _).mpr (List.getElem_mem otherIsIn)
  · have sameLabel := List.getElem_of_eq sameLabels (by simpa using isIn)
    simpa using sameLabel

end Lists

section Operators

variable {column : Value}
variable {conditions : List (Value × Value)}

theorem sentOperand_same_of_ne_null
    {operand : Value}
    (present : operand ≠ .null) :
    sentOperand .same operand = operand := by
  cases operand with
  | null => exact absurd rfl present
  | bool _ | int _ | float _ | text _ | bytes _ | date _ | moment _ | pair _ _ | list _ | map _
  | set _ | enclosing _ => rfl

/-- An operator asks for the comparison that stands beside it. -/
theorem appliesOperator_iff
    {entry : Value × Value}
    {call : QueryCall} :
    AppliesOperator column entry call ↔
      ∃ operator ∈ filterOperators, ∃ operand,
        entry = (.text operator.1, operand) ∧
          call = (operator.2.name, [column, sentOperand operator.2 operand]) := by
  constructor
  · intro applies
    cases applies with
    | @comparison operator operand known =>
        simp only [List.mem_cons, List.not_mem_nil, or_false] at known
        rcases known with rfl | rfl | rfl | rfl | rfl | rfl | rfl
        · exact ⟨("gt", .greater), by simp [filterOperators], operand, rfl, rfl⟩
        · exact ⟨("gte", .greaterOrEqual), by simp [filterOperators], operand, rfl, rfl⟩
        · exact ⟨("lt", .less), by simp [filterOperators], operand, rfl, rfl⟩
        · exact ⟨("lte", .lessOrEqual), by simp [filterOperators], operand, rfl, rfl⟩
        · exact ⟨("neq", .notEqual), by simp [filterOperators], operand, rfl, rfl⟩
        · exact ⟨("like", .like), by simp [filterOperators], operand, rfl, rfl⟩
        · exact ⟨("ilike", .likeAnyCase), by simp [filterOperators], operand, rfl, rfl⟩
    | absence =>
        exact ⟨("is", .same), by simp [filterOperators], .null, rfl, rfl⟩
    | @sameness operand present =>
        refine ⟨("is", .same), by simp [filterOperators], operand, rfl, ?_⟩
        rw [sentOperand_same_of_ne_null present]
        rfl
  · rintro ⟨operator, isOperator, operand, rfl, rfl⟩
    simp only [filterOperators, List.mem_cons, List.not_mem_nil, or_false] at isOperator
    rcases isOperator with rfl | rfl | rfl | rfl | rfl | rfl | rfl | rfl
    case inr.inr.inr.inr.inr.inr.inr =>
      by_cases isNull : operand = .null
      · subst operand
        exact .absence
      · rw [sentOperand_same_of_ne_null isNull]
        exact .sameness isNull
    all_goals
      exact .comparison (by simp)

/-- The call for an operator, as it is found. -/
theorem call_of_operatorPart?
    {operator : String × Comparison}
    {part : QueryPart}
    (isPart : operatorPart? column conditions operator = some part) :
    ∃ operand,
      Value.field? operator.1 conditions = some operand ∧
        part.call = (operator.2.name, [column, sentOperand operator.2 operand]) := by
  obtain ⟨operand, found, rfl⟩ := Option.map_eq_some_iff.mp isPart
  exact ⟨operand, found, rfl⟩

/-- The parts for a mapping of operators are what it is translated to. -/
theorem translatesOperators_columnParts
    (distinct : Value.HasDistinctKeys conditions) :
    TranslatesOperators column conditions
      ((columnParts column (.map conditions)).map QueryPart.call) where
  inOrder := by
    have named :
        ∀ operator part,
          operatorPart? column conditions operator = some part →
          part.call.1 = operator.2.name := by
      intro operator part isPart
      obtain ⟨operand, -, isCall⟩ := call_of_operatorPart? isPart
      rw [isCall]
    rw [List.map_map]
    exact map_filterMap_sublist named filterOperators
  mem_iff := by
    have found :
        ∀ name operand,
          Value.field? name conditions = some operand ↔ (.text name, operand) ∈ conditions :=
      fun _ _ => Value.field?_eq_some_iff fun _ _ => distinct.value_eq
    intro call
    simp only [appliesOperator_iff, columnParts, List.mem_map, List.mem_filterMap]
    constructor
    · rintro ⟨part, ⟨operator, isOperator, isPart⟩, rfl⟩
      obtain ⟨operand, isFound, isCall⟩ := call_of_operatorPart? isPart
      exact ⟨_, (found _ _).mp isFound, operator, isOperator, operand, rfl, isCall⟩
    · rintro ⟨entry, member, operator, isOperator, operand, rfl, rfl⟩
      refine ⟨.compare operator.2 column (sentOperand operator.2 operand),
        ⟨operator, isOperator, ?_⟩, rfl⟩
      rw [operatorPart?, (found _ _).mpr member]
      rfl

/-- A mapping of operators has one translation. -/
theorem TranslatesOperators.unique
    {calls others : List QueryCall}
    (translates : TranslatesOperators column conditions calls)
    (otherTranslates : TranslatesOperators column conditions others) :
    calls = others := by
  have distinctNames :
      ["gt", "gte", "lt", "lte", "neq", "like", "ilike", "is_"].Nodup := by
    decide
  apply eq_of_sublist_of_mem_iff distinctNames translates.inOrder otherTranslates.inOrder
  intro call
  exact (translates.mem_iff call).trans (otherTranslates.mem_iff call).symm

/-- The parts for a mapping do not depend on the order of its operators. -/
theorem columnParts_eq_of_perm
    {reordered : List (Value × Value)}
    (distinct : Value.HasDistinctKeys conditions)
    (perm : reordered.Perm conditions) :
    columnParts column (.map reordered) = columnParts column (.map conditions) := by
  have samePart :
      operatorPart? column reordered = operatorPart? column conditions := by
    funext operator
    rw [operatorPart?, operatorPart?, distinct.field?_eq_of_perm perm]
  rw [columnParts, columnParts, samePart]

end Operators

section Conditions

variable {column condition : Value}

/-- A condition is well-formed if, as a mapping, it has each key once. -/
def IsWellFormed
    (condition : Value) : Prop :=
  ∀ conditions, condition = .map conditions → Value.HasDistinctKeys conditions

/-- The parts for a condition are what it is translated to. -/
theorem translates_columnParts
    (wellFormed : IsWellFormed condition) :
    Translates column condition ((columnParts column condition).map QueryPart.call) := by
  cases condition
  case null => exact .absence
  case list items => exact .membership (.list items)
  case set items => exact .membership (.set items)
  case pair first second => exact .membership (.pair first second)
  case map conditions =>
    exact .operators (translatesOperators_columnParts (wellFormed conditions rfl))
  all_goals
    exact .equality ⟨nofun, nofun, nofun⟩

/-- A condition has one translation. -/
theorem Translates.unique
    {calls others : List QueryCall}
    (translates : Translates column condition calls)
    (otherTranslates : Translates column condition others) :
    calls = others := by
  cases translates with
  | absence =>
      cases otherTranslates with
      | absence => rfl
      | membership collects => cases collects
      | equality single => exact absurd rfl single.present
  | membership collects =>
      cases otherTranslates with
      | absence => cases collects
      | membership otherCollects => rw [collects.unique otherCollects]
      | operators _ => cases collects
      | equality single => exact (single.noCollection _ collects).elim
  | operators translates =>
      cases otherTranslates with
      | membership collects => cases collects
      | operators otherTranslates => exact translates.unique otherTranslates
      | equality single => exact (single.noMapping _ rfl).elim
  | equality single =>
      cases otherTranslates with
      | absence => exact absurd rfl single.present
      | membership collects => exact (single.noCollection _ collects).elim
      | operators _ => exact (single.noMapping _ rfl).elim
      | equality _ => rfl

end Conditions

section Columns

variable {columns : List (Value × Value)}

/-- The columns of a filter with the calls that their parts are. -/
def stepsOf
    (columns : List (Value × Value)) : List FilterStep :=
  columns.map fun entry => (entry, (columnParts entry.1 entry.2).map QueryPart.call)

theorem isTranslation_stepsOf
    (wellFormed : ∀ entry ∈ columns, IsWellFormed entry.2) :
    IsTranslation columns (stepsOf columns) where
  inOrder := by
    simp [stepsOf, Function.comp_def]
  translates := by
    intro step member
    obtain ⟨entry, isEntry, rfl⟩ := List.mem_map.mp member
    exact translates_columnParts (wellFormed entry isEntry)

/-- A filter has one translation. -/
theorem IsTranslation.unique
    {steps others : List FilterStep}
    (isTranslation : IsTranslation columns steps)
    (otherIsTranslation : IsTranslation columns others) :
    others = steps := by
  induction columns generalizing steps others with
  | nil =>
      rw [List.map_eq_nil_iff.mp isTranslation.inOrder,
        List.map_eq_nil_iff.mp otherIsTranslation.inOrder]
  | cons entry rest inductionHypothesis =>
      obtain ⟨step, later, rfl, isEntry, inOrder⟩ :=
        List.map_eq_cons_iff.mp isTranslation.inOrder
      obtain ⟨other, otherLater, rfl, otherIsEntry, otherInOrder⟩ :=
        List.map_eq_cons_iff.mp otherIsTranslation.inOrder
      have translates := isTranslation.translates step List.mem_cons_self
      have otherTranslates := otherIsTranslation.translates other List.mem_cons_self
      have sameStep : other = step := by
        rw [isEntry] at translates
        rw [otherIsEntry] at otherTranslates
        exact Prod.ext (otherIsEntry.trans isEntry.symm) (otherTranslates.unique translates)
      have sameLater : otherLater = later :=
        inductionHypothesis
          ⟨inOrder, fun next member =>
            isTranslation.translates next (List.mem_cons_of_mem step member)⟩
          ⟨otherInOrder, fun next member =>
            otherIsTranslation.translates next (List.mem_cons_of_mem other member)⟩
      rw [sameStep, sameLater]

/-- The calls for a filter are those of its columns, one column after another. -/
theorem addsCalls_stepsOf
    (columns : List (Value × Value)) :
    AddsCalls (.map columns) ((stepsOf columns).flatMap Prod.snd) := by
  intro request generated arguments responses isFilter made
  obtain ⟨query, isOnly, isMade, -⟩ := RowRequest.exists_query_of_isMadeBy made responses
  have calls :
      request.draft.calls =
        request.selectCall ::
          ((stepsOf columns).flatMap Prod.snd ++
            (pageDraft request.limit request.page).calls) := by
    rw [Draft.calls, RowRequest.draft, isFilter, parts_getAllDraft]
    simp [stepsOf, filterParts, Draft.calls, RowRequest.selectCall, QueryPart.call,
      QueryPart.name, QueryPart.arguments, List.map_flatMap, List.flatMap_map]
  refine ⟨query, (pageDraft request.limit request.page).calls, isOnly, ?_, calls ▸ isMade⟩
  intro call member
  obtain ⟨part, isPart, rfl⟩ := List.mem_map.mp member
  obtain ⟨first, last, rfl⟩ := isRange_of_mem_pageDraft isPart
  rfl

/-- The parts for a filter do not depend on the order of operators. -/
theorem filterParts_eq_of_reordered
    (wellFormed : ∀ entry ∈ columns, IsWellFormed entry.2)
    {others : List (Value × Value)}
    (reordered : List.Forall₂ IsReordered columns others) :
    filterParts others = filterParts columns := by
  induction reordered with
  | nil =>
      rfl
  | @cons entry other rest otherRest isReordered _ inductionHypothesis =>
      obtain ⟨first, later⟩ := List.forall_mem_cons.mp wellFormed
      have sameFirst : columnParts other.1 other.2 = columnParts entry.1 entry.2 := by
        cases isReordered with
        | same => rfl
        | operators column perm => exact columnParts_eq_of_perm (first _ rfl) perm
      have sameLater := inductionHypothesis later
      simp only [filterParts, List.flatMap_cons] at sameLater ⊢
      rw [sameFirst, sameLater]

/-- Filters with the same parts act alike. -/
theorem actAlike_of_filterParts_eq
    {others : List (Value × Value)}
    (same : filterParts others = filterParts columns) :
    ActAlike (.map columns) (.map others) := by
  intro request generated arguments otherArguments responses made otherMade
  have sameDraft :
      getAllDraft request.select (.map others) request.limit request.page =
        getAllDraft request.select (.map columns) request.limit request.page := by
    rw [getAllDraft, getAllDraft, filterDraft_map, filterDraft_map, same]
  rw [RowRequest.callPrimitive_of_isMadeBy made, RowRequest.callPrimitive_of_isMadeBy otherMade,
    getAll, getAll, sameDraft]

/-- A filter adds the calls of its one translation: those for its columns, in their order. When the
operators of conditions stand in another order, calls come to the same; when the columns do, so do
the steps of the translation, and each keeps its calls. -/
theorem filter_translation_exact
    (wellFormed : ∀ entry ∈ columns, IsWellFormed entry.2) :
    ∃ steps,
      IsTranslation columns steps ∧
        (∀ others, IsTranslation columns others → others = steps) ∧
        AddsCalls (.map columns) (steps.flatMap Prod.snd) ∧
        (∀ others,
          List.Forall₂ IsReordered columns others →
          ActAlike (.map columns) (.map others)) ∧
        (∀ others,
          others.Perm columns →
          ∃ otherSteps,
            otherSteps.Perm steps ∧
              IsTranslation others otherSteps ∧
              AddsCalls (.map others) (otherSteps.flatMap Prod.snd)) := by
  have isTranslation := isTranslation_stepsOf wellFormed
  refine
    ⟨stepsOf columns, isTranslation, fun _ => isTranslation.unique, addsCalls_stepsOf columns,
      ?_, ?_⟩
  · intro others reordered
    exact actAlike_of_filterParts_eq (filterParts_eq_of_reordered wellFormed reordered)
  · intro others perm
    refine ⟨stepsOf others, perm.map _, isTranslation_stepsOf ?_, addsCalls_stepsOf others⟩
    intro entry member
    exact wellFormed entry (perm.mem_iff.mp member)

end Columns

/-- Absence, an empty collection, operators of which one is not known, and a truth value. -/
def fourConditions : List (Value × Value) :=
  [(.text "deleted", .null),
    (.text "kind", .list []),
    (.text "views",
      .map
        [(.text "is", .null), (.text "most", .int 1), (.text "lt", .int 9), (.text "gte", .int 3)]),
    (.text "open", .bool false)]

/-- The same conditions with the operators in another order. -/
def fourReordered : List (Value × Value) :=
  [(.text "deleted", .null),
    (.text "kind", .list []),
    (.text "views",
      .map
        [(.text "most", .int 1), (.text "is", .null), (.text "lt", .int 9), (.text "gte", .int 3)]),
    (.text "open", .bool false)]

/-- The calls that the four conditions add, which the order of the operators does not change. -/
theorem filter_translation_exact_of_four :
    (∀ entry ∈ fourConditions, IsWellFormed entry.2) ∧
      ∃ steps,
        IsTranslation fourConditions steps ∧
          steps.flatMap Prod.snd =
            [("is_", [.text "deleted", .text "null"]), ("in_", [.text "kind", .list []]),
              ("gte", [.text "views", .int 3]), ("lt", [.text "views", .int 9]),
              ("is_", [.text "views", .text "null"]), ("eq", [.text "open", .bool false])] ∧
          AddsCalls (.map fourConditions) (steps.flatMap Prod.snd) ∧
          ActAlike (.map fourConditions) (.map fourReordered) := by
  have wellFormed : ∀ entry ∈ fourConditions, IsWellFormed entry.2 := by
    simp [fourConditions, IsWellFormed, Value.HasDistinctKeys, Value.sameKey]
  have reordered : List.Forall₂ IsReordered fourConditions fourReordered :=
    .cons (.same _) (.cons (.same _) (.cons (.operators _ (.swap _ _ _)) (.cons (.same _) .nil)))
  obtain ⟨steps, isTranslation, unique, addsCalls, alike, -⟩ := filter_translation_exact wellFormed
  have isFound : stepsOf fourConditions = steps := unique _ (isTranslation_stepsOf wellFormed)
  refine ⟨wellFormed, steps, isTranslation, ?_, addsCalls, alike _ reordered⟩
  rw [← isFound]
  rfl

end Access

end Tablewright
