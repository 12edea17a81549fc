import Tablewright.Proofs.Settings.Rules

/-!
# Lists of tables in settings

A list of tables is judged item by item, up to the first that is wrong. An empty name is reported
like whatever else is wrong with settings. Something that is no list, or an item that is no text,
ends the validation at once and is not reported.
-/

namespace Tablewright.Settings

/-- Whether the value is the name of a table that may be listed. -/
def IsTableName
    (value : Value) : Prop :=
  ∃ s, value = .text s ∧ Text.strip s ≠ ""

/-- Items of which whatever stands behind names of tables only is a text. -/
def AreTableItems
    (items : List Value) : Prop :=
  ∀ before item after,
    items = before ++ item :: after →
    (∀ earlier ∈ before, IsTableName earlier) →
    ∃ s, item = .text s

/-- A value that can be judged as a list of tables: nothing, or a list whose items can be. -/
def IsTableList
    (value : Value) : Prop :=
  value = .null ∨ ∃ items, value = .list items ∧ AreTableItems items

/-- The lists of tables in a mapping can be judged as such. -/
def HasTableLists
    (entries : List (Value × Value)) : Prop :=
  ∀ name ∈ ["include_tables", "exclude_tables"],
    ∀ value,
      Value.field? name entries = some value →
      IsTableList value

/-- A mapping without lists of tables has none that cannot be judged. -/
theorem hasTableLists_nil :
    HasTableLists [] := by
  intro name _ value given
  cases given

/-- The first of some items has to be a text, and if it is the name of a table the others are judged
too. -/
theorem areTableItems_cons_iff
    {first : Value}
    {rest : List Value} :
    AreTableItems (first :: rest) ↔
      (∃ s, first = .text s) ∧ (IsTableName first → AreTableItems rest) := by
  constructor
  · intro judged
    refine ⟨judged [] first rest rfl (by simp), ?_⟩
    intro named before item after shape earlierNamed
    refine judged (first :: before) item after (by rw [shape]; rfl) ?_
    intro earlier member
    rcases List.mem_cons.mp member with isFirst | isLater
    · rw [isFirst]
      exact named
    · exact earlierNamed earlier isLater
  · rintro ⟨isText, restJudged⟩ (_ | ⟨earlier, before⟩) item after shape named
    · cases shape
      exact isText
    · cases shape
      exact restJudged (named _ List.mem_cons_self) before item after rfl
        fun other member => named other (List.mem_cons_of_mem _ member)

/-- A check of items that is carried through has a text first. It tells that its name is blank, or adds
the name to those of the other items. -/
theorem checkTableItems_cons_cases
    {place : List String}
    {index : Nat}
    {first : Value}
    {rest : List Value}
    {checked : Checked (List String)}
    (carried : checkTableItems place index (first :: rest) = .ok checked) :
    ∃ s,
      first = .text s ∧
        ((∃ message, checked = broken place message) ∨
          (Text.strip s ≠ "" ∧
            ∃ names,
              checkTableItems place (index + 1) rest = .ok names ∧
                checked = names.map (Text.strip s :: ·))) := by
  cases first with
  | text s =>
      refine ⟨s, rfl, ?_⟩
      rw [checkTableItems] at carried
      split at carried
      · cases carried
        exact Or.inl ⟨_, rfl⟩
      · next nonempty =>
          cases further : checkTableItems place (index + 1) rest with
          | error interruption =>
              rw [further] at carried
              cases carried
          | ok names =>
              rw [further] at carried
              cases carried
              exact Or.inr ⟨nonempty, names, rfl, rfl⟩
  | null | bool _ | int _ | float _ | bytes _ | date _ | moment _ | pair _ _ | list _
  | map _ | set _ | enclosing _ =>
      cases carried

/-- A check of a list of tables that is carried through has nothing before it, or items that are checked
through. -/
theorem checkTables_cases
    {place : List String}
    {value : Value}
    {checked : Checked (Option (List String))}
    (carried : checkTables place value = .ok checked) :
    checked = .ok none ∨
      ∃ items names,
        checkTableItems place 0 items = .ok names ∧ checked = names.map some := by
  unfold checkTables at carried
  split at carried
  · cases carried
    exact Or.inl rfl
  · next items =>
      cases itemsChecked : checkTableItems place 0 items with
      | error interruption =>
          rw [itemsChecked] at carried
          cases carried
      | ok names =>
          rw [itemsChecked] at carried
          cases carried
          exact Or.inr ⟨items, names, itemsChecked, rfl⟩
  · cases carried
  · cases carried

/-- An option of tables that is checked through is left out, or has a value that is. -/
theorem checkTablesOption_cases
    {entries : List (Value × Value)}
    {name : String}
    {checked : Checked (Option (List String))}
    (carried : checkTablesOption entries name = .ok checked) :
    checked = .ok none ∨ ∃ value, checkTables [name] value = .ok checked := by
  unfold checkTablesOption at carried
  split at carried
  · cases carried
    exact Or.inl rfl
  · exact Or.inr ⟨_, carried⟩

/-- A check of items is carried through exactly when they can be judged. -/
theorem exists_checkTableItems_iff
    {place : List String}
    {items : List Value}
    {index : Nat} :
    (∃ checked, checkTableItems place index items = .ok checked) ↔ AreTableItems items := by
  induction items generalizing index with
  | nil =>
      refine iff_of_true ⟨.ok [], rfl⟩ ?_
      intro before item after shape
      cases before <;> cases shape
  | cons first rest inductionHypothesis =>
      rw [areTableItems_cons_iff]
      cases first with
      | text s =>
          by_cases isBlank : Text.strip s = ""
          · -- A blank name ends the check, so no item behind it is looked at.
            have stops :
                ∃ checked, checkTableItems place index (.text s :: rest) = .ok checked := by
              simp [checkTableItems, isBlank]
            exact iff_of_true stops ⟨⟨s, rfl⟩, by simp [IsTableName, isBlank]⟩
          · have restChecked :
                (∃ checked, checkTableItems place (index + 1) rest = .ok checked) ↔
                  AreTableItems rest :=
              inductionHypothesis
            rw [← restChecked]
            cases checks : checkTableItems place (index + 1) rest with
            | error interruption =>
                simp [checkTableItems, isBlank, checks, Except.map, IsTableName]
            | ok names =>
                simp [checkTableItems, isBlank, checks, Except.map]
      | null | bool _ | int _ | float _ | bytes _ | date _ | moment _ | pair _ _ | list _
      | map _ | set _ | enclosing _ =>
          simp [checkTableItems]

/-- A check of a list of tables is carried through exactly when it can be judged as one. -/
theorem exists_checkTables_iff
    {place : List String}
    {value : Value} :
    (∃ checked, checkTables place value = .ok checked) ↔ IsTableList value := by
  cases value with
  | null =>
      exact iff_of_true ⟨_, rfl⟩ (Or.inl rfl)
  | list items =>
      have judged :
          IsTableList (.list items) ↔ AreTableItems items := by
        simp [IsTableList]
      rw [judged, ← exists_checkTableItems_iff]
      simp only [checkTables]
      cases checkTableItems place 0 items with
      | error interruption =>
          simp [Except.map]
      | ok names =>
          simp [Except.map]
  | enclosing kind =>
      refine iff_of_false ?_ (by simp [IsTableList])
      rintro ⟨checked, carried⟩
      cases kind <;> cases carried
  | bool _ | int _ | float _ | text _ | bytes _ | date _ | moment _ | pair _ _ | map _ | set _ =>
      refine iff_of_false ?_ (by simp [IsTableList])
      rintro ⟨checked, carried⟩
      cases carried

/-- An option of tables is checked through exactly when it can be judged, if it is given. -/
theorem exists_checkTablesOption_iff
    {entries : List (Value × Value)}
    {name : String} :
    (∃ checked, checkTablesOption entries name = .ok checked) ↔
      ∀ value, Value.field? name entries = some value → IsTableList value := by
  unfold checkTablesOption
  cases Value.field? name entries with
  | none =>
      exact iff_of_true ⟨_, rfl⟩ (by simp)
  | some value =>
      simp only [Option.some.injEq, forall_eq']
      exact exists_checkTables_iff

/-- A validation is carried through, with settings or with all that is wrong with them, exactly when
the lists of tables can be judged. -/
theorem exists_ofEntries_iff
    {entries : List (Value × Value)} :
    (∃ checked, ofEntries entries = .ok checked) ↔ HasTableLists entries := by
  have bothJudged :
      HasTableLists entries ↔
        (∃ checked, checkTablesOption entries "include_tables" = .ok checked) ∧
          ∃ checked, checkTablesOption entries "exclude_tables" = .ok checked := by
    simp [HasTableLists, exists_checkTablesOption_iff]
  rw [bothJudged]
  unfold ofEntries
  cases checkTablesOption entries "include_tables" with
  | error interruption =>
      simp [bind, Except.bind]
  | ok included =>
      cases checkTablesOption entries "exclude_tables" with
      | error interruption =>
          simp [bind, Except.bind]
      | ok excluded =>
          simp [bind, Except.bind, pure, Except.pure]

end Tablewright.Settings
