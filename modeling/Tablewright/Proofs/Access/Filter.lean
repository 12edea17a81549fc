import Mathlib.Data.List.Nodup
import Tablewright.Proofs.Access.Work
import Tablewright.Proofs.Value.Entries

/-!
# Filters that reach the query

Reading all rows makes one query, and each column of a filter has its own parts in it. A condition
on a column has no part when it is a mapping without any of the operators, and keys of a mapping
that are no operators have none. So the query expresses its filter exactly when there are no such
conditions and no such keys.
-/

namespace Tablewright.Access

/-- The part compares the column with something. -/
def QueryPart.IsOn
    (part : QueryPart)
    (column : Value) : Prop :=
  ∃ comparison operand, part = .compare comparison column operand

/-- The part compares the column in this way. -/
def QueryPart.IsComparison
    (part : QueryPart)
    (comparison : Comparison)
    (column : Value) : Prop :=
  ∃ operand, part = .compare comparison column operand

/-- The column is compared in this way once. -/
def ComparesOnce
    (parts : List QueryPart)
    (comparison : Comparison)
    (column : Value) : Prop :=
  ∃ before part after,
    parts = before ++ part :: after ∧
      part.IsComparison comparison column ∧
      ∀ other ∈ before ++ after, ¬ other.IsComparison comparison column

/-- The query has a part for the condition on the column and, if that is a mapping, one for each of
its keys. -/
structure Query.Expresses
    (query : Query)
    (column condition : Value) : Prop where
  byColumn : ∃ part ∈ query.parts, part.IsOn column
  byKeys :
    ∀ conditions,
      condition = .map conditions →
      ∀ key ∈ conditions.map Prod.fst,
        ∃ operator ∈ filterOperators,
          key = .text operator.1 ∧ ComparesOnce query.parts operator.2 column

/-- A condition that has a meaning: a mapping has at least one key, and only operators for keys. -/
def IsMeaningful : Value → Prop
  | .map conditions =>
      conditions ≠ [] ∧
        ∀ key ∈ conditions.map Prod.fst,
          ∃ operator ∈ filterOperators, key = .text operator.1
  | _ => True

/-- An element whose key no other has, with what comes before and after it. -/
private theorem exists_split_of_nodup
    {α β : Type}
    {key : α → β}
    {items : List α}
    (apart : (items.map key).Nodup)
    {item : α}
    (member : item ∈ items) :
    ∃ before after,
      items = before ++ item :: after ∧ ∀ other ∈ before ++ after, key other ≠ key item := by
  obtain ⟨before, after, rfl⟩ := List.append_of_mem member
  rw [List.map_append, List.map_cons, List.nodup_middle, ← List.map_append] at apart
  refine ⟨before, after, rfl, fun other isOther same => ?_⟩
  exact (List.nodup_cons.mp apart).1 (same ▸ List.mem_map_of_mem isOther)

section Column

variable {column : Value}

theorem isOn_of_mem_columnParts
    {condition : Value}
    {part : QueryPart}
    (member : part ∈ columnParts column condition) :
    part.IsOn column := by
  cases condition
  case map conditions =>
    obtain ⟨operator, -, isPart⟩ := List.mem_filterMap.mp member
    obtain ⟨operand, -, rfl⟩ := Option.map_eq_some_iff.mp isPart
    exact ⟨_, _, rfl⟩
  all_goals
    rw [List.mem_singleton.mp member]
    exact ⟨_, _, rfl⟩

/-- An operator has a part exactly when the condition has the key for it. -/
theorem isSome_operatorPart?_iff
    {conditions : List (Value × Value)}
    {operator : String × Comparison} :
    (operatorPart? column conditions operator).isSome = true ↔
      .text operator.1 ∈ conditions.map Prod.fst := by
  rw [operatorPart?, Option.isSome_map, Value.isSome_field?_iff]

/-- A mapping has a part exactly when one of its keys is an operator. -/
theorem exists_mem_columnParts_map_iff
    {conditions : List (Value × Value)} :
    (∃ part, part ∈ columnParts column (.map conditions)) ↔
      ∃ operator ∈ filterOperators, .text operator.1 ∈ conditions.map Prod.fst := by
  constructor
  · rintro ⟨part, member⟩
    obtain ⟨operator, isOperator, isPart⟩ := List.mem_filterMap.mp member
    have hasPart : (operatorPart? column conditions operator).isSome = true := by
      rw [isPart, Option.isSome_some]
    exact ⟨operator, isOperator, isSome_operatorPart?_iff.mp hasPart⟩
  · rintro ⟨operator, isOperator, isKey⟩
    have hasPart : (operatorPart? column conditions operator).isSome = true :=
      isSome_operatorPart?_iff.mpr isKey
    obtain ⟨part, isPart⟩ := Option.isSome_iff_exists.mp hasPart
    exact ⟨part, List.mem_filterMap.mpr ⟨operator, isOperator, isPart⟩⟩

theorem exists_mem_columnParts
    {condition : Value}
    (meaningful : IsMeaningful condition) :
    ∃ part, part ∈ columnParts column condition := by
  cases condition
  case map conditions =>
    obtain ⟨isAny, known⟩ := meaningful
    obtain ⟨entry, rest, rfl⟩ := List.exists_cons_of_ne_nil isAny
    obtain ⟨operator, isOperator, isKey⟩ := known entry.1 List.mem_cons_self
    refine exists_mem_columnParts_map_iff.mpr ⟨operator, isOperator, ?_⟩
    rw [← isKey]
    exact List.mem_cons_self
  all_goals
    exact ⟨_, List.mem_singleton.mpr rfl⟩

/-- No two operators make the same comparison. -/
theorem comparisons_nodup : (filterOperators.map Prod.snd).Nodup := by
  decide

/-- An operator that a condition has is compared once. -/
theorem comparesOnce_columnParts
    {conditions : List (Value × Value)}
    {operator : String × Comparison}
    (isOperator : operator ∈ filterOperators)
    (isKey : .text operator.1 ∈ conditions.map Prod.fst) :
    ComparesOnce (columnParts column (.map conditions)) operator.2 column := by
  obtain ⟨earlier, later, split, ownComparison⟩ :=
    exists_split_of_nodup comparisons_nodup isOperator
  have hasPart : (operatorPart? column conditions operator).isSome = true :=
    isSome_operatorPart?_iff.mpr isKey
  obtain ⟨part, isPart⟩ := Option.isSome_iff_exists.mp hasPart
  refine
    ⟨earlier.filterMap (operatorPart? column conditions), part,
      later.filterMap (operatorPart? column conditions), ?_, ?_, ?_⟩
  · simp [columnParts, split, List.filterMap_append, isPart]
  · obtain ⟨operand, -, rfl⟩ := Option.map_eq_some_iff.mp isPart
    exact ⟨_, rfl⟩
  · rw [← List.filterMap_append]
    rintro other member ⟨operand, rfl⟩
    obtain ⟨otherOperator, isOther, makes⟩ := List.mem_filterMap.mp member
    obtain ⟨_, -, same⟩ := Option.map_eq_some_iff.mp makes
    exact ownComparison otherOperator isOther (QueryPart.compare.inj same).1

end Column

section Query

variable {columns : List (Value × Value)}

/-- A part for a filter is on one of its columns. -/
theorem exists_column_of_mem_filterParts
    {part : QueryPart}
    (member : part ∈ filterParts columns) :
    ∃ entry ∈ columns, part.IsOn entry.1 := by
  obtain ⟨entry, isEntry, isPart⟩ := List.mem_flatMap.mp member
  exact ⟨entry, isEntry, isOn_of_mem_columnParts isPart⟩

/-- Whatever is given as a filter, its parts are on columns. -/
theorem exists_column_of_mem_filterDraft
    {filters : Value}
    {part : QueryPart}
    (member : part ∈ (filterDraft filters).parts) :
    ∃ column, part.IsOn column := by
  unfold filterDraft at member
  split at member
  · cases member
  · split at member
    · obtain ⟨entry, -, isOn⟩ := exists_column_of_mem_filterParts member
      exact ⟨entry.1, isOn⟩
    · cases member

theorem column_eq_of_isOn
    {part : QueryPart}
    {column other : Value}
    (isOn : part.IsOn column)
    (isOnOther : part.IsOn other) :
    column = other := by
  obtain ⟨_, _, rfl⟩ := isOn
  obtain ⟨_, _, same⟩ := isOnOther
  cases same
  rfl

/-- A filter that is a mapping does not fail, and its parts are those of its columns. -/
theorem filterDraft_map
    (columns : List (Value × Value)) :
    filterDraft (.map columns) = .ofParts (filterParts columns) := by
  cases columns <;> rfl

/-- The part picks a page. -/
def QueryPart.IsRange
    (part : QueryPart) : Prop :=
  ∃ first last, part = .range first last

theorem isRange_of_mem_pageDraft
    {limit page : Value}
    {part : QueryPart}
    (member : part ∈ (pageDraft limit page).parts) :
    part.IsRange := by
  unfold pageDraft at member
  split at member
  · cases member
  · cases bounds : pageBounds _ page with
    | error fault =>
        rw [bounds] at member
        cases member
    | ok rows =>
        rw [bounds] at member
        exact ⟨_, _, List.mem_singleton.mp member⟩

/-- The parts of the query for a filter that is a mapping: what is read, the filter, and a page. -/
theorem parts_getAllDraft
    (select limit page : Value) :
    (getAllDraft select (.map columns) limit page).parts =
      .select (columnsOf select) :: (filterParts columns ++ (pageDraft limit page).parts) := by
  simp [getAllDraft, filterDraft_map, Draft.andThen, Draft.ofParts]

/-- The filter parts of a column are the parts on the column, whatever comes before and after the
filter, when the column is in the filter once. -/
theorem exists_split_of_mem
    {parts pages : List QueryPart}
    {select : Value}
    (apart : (columns.map Prod.fst).Nodup)
    (inOrder : parts = .select select :: (filterParts columns ++ pages))
    (rangesOnly : ∀ part ∈ pages, part.IsRange)
    {entry : Value × Value}
    (isEntry : entry ∈ columns) :
    ∃ before after,
      parts = before ++ columnParts entry.1 entry.2 ++ after ∧
        ∀ part ∈ before ++ after, ¬ part.IsOn entry.1 := by
  obtain ⟨earlier, later, rfl, otherColumn⟩ := exists_split_of_nodup apart isEntry
  refine
    ⟨.select select :: filterParts earlier, filterParts later ++ pages, ?_, ?_⟩
  · simp [inOrder, filterParts]
  · have elsewhere :
        ∀ others, others ⊆ earlier ++ later →
          ∀ part ∈ filterParts others, ¬ part.IsOn entry.1 := by
      intro others among part member isOn
      obtain ⟨other, isOther, isOnOther⟩ := exists_column_of_mem_filterParts member
      exact otherColumn other (among isOther) (column_eq_of_isOn isOnOther isOn)
    intro part member
    rcases List.mem_append.mp member with inFront | behind
    · rcases List.mem_cons.mp inFront with rfl | inEarlier
      · rintro ⟨_, _, isCompare⟩
        cases isCompare
      · exact elsewhere earlier (List.subset_append_left _ _) part inEarlier
    · rcases List.mem_append.mp behind with inLater | inPages
      · exact elsewhere later (List.subset_append_right _ _) part inLater
      · obtain ⟨_, _, rfl⟩ := rangesOnly part inPages
        rintro ⟨_, _, isCompare⟩
        cases isCompare

/-- A comparison that parts make once is made once among further parts that are not on the
column. -/
theorem ComparesOnce.between
    {middle before after : List QueryPart}
    {comparison : Comparison}
    {column : Value}
    (once : ComparesOnce middle comparison column)
    (elsewhere : ∀ part ∈ before ++ after, ¬ part.IsOn column) :
    ComparesOnce (before ++ middle ++ after) comparison column := by
  obtain ⟨inFront, part, behind, rfl, isComparison, single⟩ := once
  refine ⟨before ++ inFront, part, behind ++ after, by simp, isComparison, ?_⟩
  intro other member compares
  have isOn : other.IsOn column := by
    obtain ⟨operand, rfl⟩ := compares
    exact ⟨_, _, rfl⟩
  simp only [List.mem_append] at member single elsewhere
  rcases member with (inBefore | inMiddle) | inMiddle | inAfter
  · exact elsewhere other (.inl inBefore) isOn
  · exact single other (.inl inMiddle) compares
  · exact single other (.inr inMiddle) compares
  · exact elsewhere other (.inr inAfter) isOn

/-- An operator that a condition has is compared once by the query. -/
theorem comparesOnce_of_split
    {query : Query}
    {column : Value}
    {conditions : List (Value × Value)}
    {before after : List QueryPart}
    (split : query.parts = before ++ columnParts column (.map conditions) ++ after)
    (elsewhere : ∀ part ∈ before ++ after, ¬ part.IsOn column)
    {operator : String × Comparison}
    (isOperator : operator ∈ filterOperators)
    (isKey : .text operator.1 ∈ conditions.map Prod.fst) :
    ComparesOnce query.parts operator.2 column := by
  rw [split]
  exact (comparesOnce_columnParts isOperator isKey).between elsewhere

/-- A query in which all parts on a column are those for one condition expresses it exactly when it
has a meaning. -/
theorem Query.expresses_iff_of_split
    {query : Query}
    {column condition : Value}
    {before after : List QueryPart}
    (split : query.parts = before ++ columnParts column condition ++ after)
    (elsewhere : ∀ part ∈ before ++ after, ¬ part.IsOn column) :
    query.Expresses column condition ↔ IsMeaningful condition := by
  constructor
  · intro expresses
    cases condition
    case map conditions =>
      obtain ⟨part, member, isOn⟩ := expresses.byColumn
      have isOwn : part ∈ columnParts column (.map conditions) := by
        rw [split] at member
        simp only [List.mem_append] at member elsewhere
        rcases member with (inBefore | own) | inAfter
        · exact (elsewhere part (.inl inBefore) isOn).elim
        · exact own
        · exact (elsewhere part (.inr inAfter) isOn).elim
      obtain ⟨operator, -, isKey⟩ := exists_mem_columnParts_map_iff.mp ⟨part, isOwn⟩
      refine ⟨?_, fun key isAny => ?_⟩
      · rintro rfl
        cases isKey
      · obtain ⟨known, isOperator, isText, -⟩ := expresses.byKeys conditions rfl key isAny
        exact ⟨known, isOperator, isText⟩
    all_goals
      trivial
  · intro meaningful
    have hasPart : ∃ part, part ∈ columnParts column condition :=
      exists_mem_columnParts meaningful
    obtain ⟨part, member⟩ := hasPart
    refine ⟨⟨part, ?_, isOn_of_mem_columnParts member⟩, ?_⟩
    · rw [split]
      exact List.mem_append_left _ (List.mem_append_right _ member)
    · rintro conditions rfl key isAny
      obtain ⟨operator, isOperator, rfl⟩ := meaningful.2 key isAny
      exact ⟨operator, isOperator, rfl, comparesOnce_of_split split elsewhere isOperator isAny⟩

end Query

/-- Reading all rows makes one query, which is executed as it is drafted or fails. -/
theorem exists_query_of_getAll
    (table : Value)
    (bound : Calls.Bound)
    (responses : List Response) :
    ∃ query,
      (runPrimitive .getAll table bound responses).queries = [query] ∧
        (query.executed = true →
          query.parts =
            (getAllDraft (bound.get "select") (bound.get "filters") (bound.get "limit")
              (bound.get "page")).parts) ∧
        (query.executed = false →
          ∃ error, (runPrimitive .getAll table bound responses).result = .error error) := by
  unfold runPrimitive perform getAll logged
  generalize getAllDraft _ _ _ _ = draft
  rw [run_tryCatch, run_bind]
  have sends := sends_run table draft (.start responses)
  generalize (send table draft).run (.start responses) = sent at sends ⊢
  cases sends with
  | interrupted _ =>
      exact ⟨_, rfl, nofun, fun _ => ⟨_, rfl⟩⟩
  | abandoned _ =>
      exact ⟨_, rfl, nofun, fun _ => ⟨_, rfl⟩⟩
  | executed _ _ =>
      cases (Session.start responses).answer.result with
      | ok rows => exact ⟨_, rfl, fun _ => rfl, nofun⟩
      | error error => exact ⟨_, rfl, fun _ => rfl, nofun⟩

/-- Reading all rows under a filter makes one query. In it each operator that a condition has is
compared once, and a condition is expressed exactly when it has a meaning: a mapping without
operators is passed over, and so is a key that is no operator. -/
theorem query_expresses_filter_iff
    {generated : GeneratedClass}
    {arguments : Calls.Arguments}
    {bound : Calls.Bound}
    (fits : Calls.bind (generated.primitiveCallee .getAll) arguments = .ok bound)
    {columns : List (Value × Value)}
    (isMapping : bound.get "filters" = .map columns)
    (apart : (columns.map Prod.fst).Nodup)
    (responses : List Response) :
    ∃ query,
      (generated.callPrimitive .getAll arguments responses).queries = [query] ∧
        (query.executed = false →
          ∃ error, (generated.callPrimitive .getAll arguments responses).result = .error error) ∧
        (query.executed = true →
          ∀ entry ∈ columns,
            (∀ conditions,
              entry.2 = .map conditions →
              ∀ operator ∈ filterOperators,
                .text operator.1 ∈ conditions.map Prod.fst →
                ComparesOnce query.parts operator.2 entry.1) ∧
            (query.Expresses entry.1 entry.2 ↔ IsMeaningful entry.2)) := by
  have runs :
      generated.callPrimitive .getAll arguments responses =
        runPrimitive .getAll (bound.get "table_name") bound responses := by
    rw [GeneratedClass.callPrimitive, fits]
  obtain ⟨query, isOnly, inFull, fails⟩ :=
    exists_query_of_getAll (bound.get "table_name") bound responses
  rw [runs]
  refine ⟨query, isOnly, fails, fun executed entry isEntry => ?_⟩
  have inOrder := inFull executed
  rw [isMapping, parts_getAllDraft] at inOrder
  obtain ⟨before, after, split, elsewhere⟩ :=
    exists_split_of_mem apart inOrder (fun _ => isRange_of_mem_pageDraft) isEntry
  refine ⟨?_, Query.expresses_iff_of_split split elsewhere⟩
  intro conditions isMap operator isOperator isKey
  rw [isMap] at split
  exact comparesOnce_of_split split elsewhere isOperator isKey

/-- A filter on two columns, with two operators for the second. -/
def statusAndViews : List (Value × Value) :=
  [(.text "status", .text "open"),
    (.text "views", .map [(.text "lt", .int 9), (.text "gte", .int 3)])]

/-- Both conditions of this filter are expressed by the query, which is executed. -/
theorem query_expresses_filter_iff_of_two_columns :
    ∃ query,
      (GeneratedClass.callPrimitive ⟨"SupabaseApi", []⟩ .getAll
          ⟨[.text "posts"], [("filters", .map statusAndViews)]⟩ []).queries = [query] ∧
        query.executed = true ∧
        ∀ entry ∈ statusAndViews, query.Expresses entry.1 entry.2 := by
  have fits :
      Calls.bind (GeneratedClass.primitiveCallee ⟨"SupabaseApi", []⟩ .getAll)
          ⟨[.text "posts"], [("filters", .map statusAndViews)]⟩ =
        .ok
          ⟨[("table_name", .text "posts"), ("select", .text "*"), ("id_field", .text "id"),
            ("limit", .null), ("page", .int 0), ("filters", .map statusAndViews)], []⟩ :=
    rfl
  have apart : (statusAndViews.map Prod.fst).Nodup := by simp [statusAndViews]
  obtain ⟨query, isOnly, -, inFull⟩ := query_expresses_filter_iff fits rfl apart []
  have executed : query.executed = true := by
    cases isOnly
    rfl
  refine ⟨query, isOnly, executed, fun entry isEntry => ?_⟩
  apply (inFull executed entry isEntry).2.mpr
  rcases List.mem_pair.mp isEntry with rfl | rfl
  · trivial
  · simp [IsMeaningful, filterOperators]

/-- What is no operator is passed over, so that this call reads all rows. -/
theorem getAll_passes_over_unknown_operator :
    GeneratedClass.callPrimitive ⟨"SupabaseApi", []⟩ .getAll
        ⟨[.text "posts"], [("filters", .map [(.text "age", .map [(.text "ge", .int 18)])])]⟩
        [.data (.list [.map [(.text "age", .int 3)]])] =
      ⟨.ok (.list [.map [(.text "age", .int 3)]]),
        [⟨.text "posts", [.select (.text "*")], true⟩], []⟩ ∧
      ¬ Query.Expresses ⟨.text "posts", [.select (.text "*")], true⟩ (.text "age")
        (.map [(.text "ge", .int 18)]) := by
  refine ⟨rfl, fun expresses => ?_⟩
  obtain ⟨part, member, comparison, operand, isPart⟩ := expresses.byColumn
  rw [List.mem_singleton.mp member] at isPart
  cases isPart

end Tablewright.Access
