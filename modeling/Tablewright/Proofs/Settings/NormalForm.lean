import Tablewright.Proofs.Settings.Overrides
import Tablewright.Proofs.Settings.TableLists
import Tablewright.Proofs.Text.Solid

/-!
# The normal form of settings

Validated settings are in a normal form: texts keep the rules of their options, names of tables are
stripped, overrides name each table once, and the number of seconds is not below zero. Settings in
this form, written as a mapping, are given back by a validation of that mapping.
-/

namespace Tablewright.Settings

open Methods (MethodStyle)
open Naming (Overrides Pluralizer)

/-- Names of tables, if there are any, are stripped and not empty. -/
def AreTableNames
    (tables? : Option (List String)) : Prop :=
  ∀ tables,
    tables? = some tables →
    ∀ table ∈ tables, table ≠ "" ∧ Text.strip table = table

/-- Settings whose options are as a validation leaves them. -/
structure IsNormal
    (settings : Settings) : Prop where
  className : settings.className ≠ "" ∧ classNameRule settings.className = none
  templateFilename :
    settings.templateFilename ≠ "" ∧ filenameRule settings.templateFilename = none
  placeholder : settings.placeholder ≠ "" ∧ placeholderRule settings.placeholder = none
  pluralOverrides : AreNormalOverrides settings.pluralOverrides
  includeTables : AreTableNames settings.includeTables
  excludeTables : AreTableNames settings.excludeTables
  deleteWaitTimeout : 0.0 ≤ settings.deleteWaitTimeout

/-! ## Validated settings are normal -/

/-- The names that a check of items gives are stripped. -/
theorem areStripped_of_checkTableItems
    {place : List String}
    {index : Nat}
    {items : List Value}
    {tables : List String}
    (passes : checkTableItems place index items = .ok (.ok tables)) :
    ∀ table ∈ tables, table ≠ "" ∧ Text.strip table = table := by
  induction items generalizing index tables with
  | nil =>
      cases passes
      exact List.forall_mem_nil _
  | cons first rest inductionHypothesis =>
      obtain ⟨s, -, ⟨message, isBroken⟩ | ⟨nonempty, checked, further, isChecked⟩⟩ :=
        checkTableItems_cons_cases passes
      · cases isBroken
      · obtain ⟨names, rfl, rfl⟩ := map_eq_ok isChecked.symm
        exact List.forall_mem_cons.mpr
          ⟨⟨nonempty, Text.strip_strip s⟩, inductionHypothesis further⟩

theorem areTableNames_of_checkTables
    {place : List String}
    {value : Value}
    {tables? : Option (List String)}
    (passes : checkTables place value = .ok (.ok tables?)) :
    AreTableNames tables? := by
  rcases checkTables_cases passes with isNone | ⟨items, checked, itemsChecked, isChecked⟩
  · cases isNone
    rintro _ ⟨⟩
  · obtain ⟨names, rfl, rfl⟩ := map_eq_ok isChecked.symm
    rintro _ ⟨⟩
    exact areStripped_of_checkTableItems itemsChecked

theorem areTableNames_of_checkTablesOption
    {entries : List (Value × Value)}
    {name : String}
    {tables? : Option (List String)}
    (passes : checkTablesOption entries name = .ok (.ok tables?)) :
    AreTableNames tables? := by
  rcases checkTablesOption_cases passes with isNone | ⟨value, valueChecked⟩
  · cases isNone
    rintro _ ⟨⟩
  · exact areTableNames_of_checkTables valueChecked

/-- A number of seconds that passed its check is not below zero. -/
theorem le_of_checkTimeout
    {place : List String}
    {value : Value}
    {seconds : Float}
    (passes : checkTimeout place value = .ok seconds) :
    0.0 ≤ seconds := by
  unfold checkTimeout at passes
  cases given : misfitting place (numberOf value) with
  | error problems =>
      rw [given] at passes
      cases passes
  | ok candidate =>
      simp only [given, bind, Except.bind] at passes
      split at passes
      · next atLeast =>
          cases passes
          exact atLeast
      · cases passes

/-- Settings that passed the checks of some entries are normal. -/
theorem PassesChecks.isNormal
    {entries : List (Value × Value)}
    {settings : Settings}
    (passes : PassesChecks entries settings) :
    settings.IsNormal where
  className := rule_of_checkOption_checkText (by decide +kernel) passes.className
  templateFilename := rule_of_checkOption_checkText (by decide) passes.templateFilename
  placeholder := rule_of_checkOption_checkText (by decide +kernel) passes.placeholder
  pluralOverrides := by
    rcases checkOption_eq_ok passes.pluralOverrides with isOwn | ⟨value, checked⟩
    · rw [isOwn]
      exact AreNormalOverrides.nil
    · exact areNormal_of_checkOverrides checked
  includeTables := areTableNames_of_checkTablesOption passes.includeTables
  excludeTables := areTableNames_of_checkTablesOption passes.excludeTables
  deleteWaitTimeout := by
    rcases checkOption_eq_ok passes.deleteWaitTimeout with isOwn | ⟨value, checked⟩
    · rw [isOwn]
      decide +kernel
    · exact le_of_checkTimeout checked

/-! ## Normal settings pass their checks as they are -/

section Written

variable {place : List String}

/-- A text that keeps its rule is left as it is. -/
theorem checkText_text
    {rule : String → Option String}
    {text : String}
    (keeps : text ≠ "" ∧ rule text = none) :
    checkText place rule (.text text) = .ok text :=
  checkText_eq_ok_iff.mpr ⟨rfl, keeps⟩

theorem checkForms_text
    {forms : Naming.Inflection}
    (areForms : AreForms forms) :
    checkForms place
        (.map
          [(.text "singular", .text forms.singular), (.text "plural", .text forms.plural)]) =
      .ok forms := by
  have fine (name form : String) (entries : List (Value × Value))
      (given : Value.field? name entries = some (.text form)) (isForm : IsForm form) :
      checkForm place name entries = .ok form :=
    checkForm_eq_ok_iff.mpr ⟨_, given, rfl, isForm⟩
  rw [checkForms, fine "singular" _ _ rfl areForms.singular, fine "plural" _ _ rfl areForms.plural]
  rfl

/-- Normal overrides are added to others as they are. -/
theorem checkOverrideEntries_overrides
    {before overrides : Overrides}
    (normal : AreNormalOverrides (before ++ overrides)) :
    checkOverrideEntries place (.ok before)
        (overrides.map fun (table, forms) =>
          (.text table,
            .map
              [(.text "singular", .text forms.singular), (.text "plural", .text forms.plural)])) =
      .ok (before ++ overrides) := by
  induction overrides generalizing before with
  | nil =>
      rw [List.append_nil]
      rfl
  | cons entry rest inductionHypothesis =>
      obtain ⟨table, forms⟩ := entry
      have areForms : AreForms forms :=
        normal.areForms (table, forms) (by simp)
      have unlisted : table ∉ Overrides.tables before := by
        have distinct := normal.distinct
        rw [Overrides.tables, List.map_append, List.nodup_append] at distinct
        intro listed
        exact distinct.2.2 table listed table (by simp) rfl
      have regrouped : before ++ (table, forms) :: rest = (before ++ [(table, forms)]) ++ rest := by
        simp
      rw [regrouped] at normal ⊢
      rw [← inductionHypothesis normal, ← Overrides.set_of_not_mem unlisted, List.map_cons,
        checkOverrideEntries, checkForms_text areForms]
      rfl

theorem checkOverrides_overridesValue
    {overrides : Overrides}
    (normal : AreNormalOverrides overrides) :
    checkOverrides place (overridesValue overrides) = .ok overrides :=
  checkOverrideEntries_overrides normal

theorem checkTableItems_text
    {tables : List String}
    (stripped : ∀ table ∈ tables, table ≠ "" ∧ Text.strip table = table)
    (index : Nat) :
    checkTableItems place index (tables.map Value.text) = .ok (.ok tables) := by
  induction tables generalizing index with
  | nil =>
      rfl
  | cons table rest inductionHypothesis =>
      obtain ⟨⟨nonempty, isStripped⟩, restStripped⟩ := List.forall_mem_cons.mp stripped
      rw [List.map_cons, checkTableItems, isStripped, if_neg nonempty,
        inductionHypothesis restStripped]
      rfl

theorem checkTables_tablesValue
    {tables? : Option (List String)}
    (areNames : AreTableNames tables?) :
    checkTables place (tablesValue tables?) = .ok (.ok tables?) := by
  cases tables? with
  | none =>
      rfl
  | some tables =>
      rw [tablesValue, checkTables, checkTableItems_text (areNames tables rfl)]
      rfl

theorem checkTimeout_float
    {seconds : Float}
    (atLeast : 0.0 ≤ seconds) :
    checkTimeout place (.float seconds) = .ok seconds := by
  rw [checkTimeout, numberOf, misfitting_ok]
  exact if_pos atLeast

end Written

/-- The entries of settings that are written as a mapping. -/
def entries
    (settings : Settings) : List (Value × Value) :=
  settings.fields.map fun (name, value) => (.text name, value)

/-- An option is found in the entries under its name. -/
theorem field?_entries
    (settings : Settings)
    (name : String) :
    Value.field? name settings.entries = settings.get? name := by
  have found (fields : List (String × Value)) :
      Value.field? name (fields.map fun (other, value) => (.text other, value)) =
        fields.lookup name := by
    induction fields with
    | nil =>
        rfl
    | cons field rest inductionHypothesis =>
        obtain ⟨other, value⟩ := field
        rw [Value.field?, Value.lookup?, List.map_cons, List.find?_cons, List.lookup_cons,
          ← inductionHypothesis]
        by_cases isOther : name = other
        · simp [Value.sameKey, isOther]
        · have differs : (name == other) = false := by
            simpa using isOther
          have differsToo : (other == name) = false := by
            simpa using Ne.symm isOther
          simp [Value.sameKey, differs, differsToo, Value.field?, Value.lookup?]
  exact found settings.fields

/-- Normal settings pass the checks of the mapping that they are written as. -/
theorem IsNormal.passesChecks
    {settings : Settings}
    (normal : settings.IsNormal) :
    PassesChecks settings.entries settings := by
  have given {α : Type} {name : String} {value : Value}
      (isOption : settings.get? name = some value)
      (own : α) (check : List String → Value → Checked α) :
      checkOption settings.entries name own check = check [name] value := by
    rw [checkOption, settings.field?_entries, isOption]
  have givenTables {name : String} {tables? : Option (List String)}
      (isOption : settings.get? name = some (tablesValue tables?))
      (areNames : AreTableNames tables?) :
      checkTablesOption settings.entries name = .ok (.ok tables?) := by
    rw [checkTablesOption, settings.field?_entries, isOption]
    exact checkTables_tablesValue areNames
  constructor
  case className =>
    rw [given rfl]
    exact checkText_text normal.className
  case templateFilename =>
    rw [given rfl]
    exact checkText_text normal.templateFilename
  case placeholder =>
    rw [given rfl]
    exact checkText_text normal.placeholder
  case methodStyle =>
    rw [given rfl]
    cases settings.methodStyle <;> rfl
  case pluralizer =>
    rw [given rfl]
    cases settings.pluralizer <;> rfl
  case pluralOverrides =>
    rw [given rfl]
    exact checkOverrides_overridesValue normal.pluralOverrides
  case includeTables =>
    exact givenTables rfl normal.includeTables
  case excludeTables =>
    exact givenTables rfl normal.excludeTables
  case deleteWaitTimeout =>
    rw [given rfl]
    exact checkTimeout_float normal.deleteWaitTimeout
  case formatCode =>
    rw [given rfl]
    rfl

/-- Settings whose options all passed their checks are made from the entries. -/
theorem PassesChecks.ofEntries_eq
    {entries : List (Value × Value)}
    {settings : Settings}
    (passes : PassesChecks entries settings) :
    ofEntries entries = .ok (.ok settings) := by
  simp only [ofEntries, passes.includeTables, passes.excludeTables, passes.className,
    passes.templateFilename, passes.placeholder, passes.methodStyle, passes.pluralizer,
    passes.pluralOverrides, passes.deleteWaitTimeout, passes.formatCode, both, bind, Except.bind,
    pure, Except.pure, Except.map]

/-- Validated settings are given back when they are written as a mapping and validated again. -/
theorem validate_toValue
    {file? : Option String}
    {value : Value}
    {settings : Settings}
    (validates : validate file? value = .ok settings)
    (again? : Option String) :
    validate again? settings.toValue = .ok settings := by
  have validated : settings.IsValidated :=
    ⟨file?, value, validates⟩
  obtain ⟨entries, passes⟩ := validated.passesChecks
  have made : ofValue settings.toValue = .ok (.ok settings) :=
    passes.isNormal.passesChecks.ofEntries_eq
  rw [validate, made]

/-- Settings of a mapping with blanks around a table, the forms of a table in another order, and
texts for a number and for a truth value. -/
theorem validate_toValue_of_coercions :
    ∃ settings,
      validate none
          (.map
            [(.text "include_tables", .list [.text " posts "]),
              (.text "plural_overrides",
                .map
                  [(.text "bee",
                      .map [(.text "plural", .text "Bees"), (.text "singular", .text "Bee")]),
                    (.text "ant",
                      .map [(.text "singular", .text "Ant"), (.text "plural", .text "Ants")])]),
              (.text "delete_wait_timeout", .text " 1_0 "),
              (.text "format_code", .text "yes")]) =
        .ok settings ∧
      settings.includeTables = some ["posts"] ∧
      settings.pluralOverrides = [("bee", ⟨"Bee", "Bees"⟩), ("ant", ⟨"Ant", "Ants"⟩)] ∧
      settings.deleteWaitTimeout = 10.0 ∧
      settings.formatCode = true ∧
      validate none settings.toValue = .ok settings := by
  let settings : Settings :=
    { standard with
      pluralOverrides := [("bee", ⟨"Bee", "Bees"⟩), ("ant", ⟨"Ant", "Ants"⟩)]
      includeTables := some ["posts"]
      deleteWaitTimeout := 10.0
      formatCode := true }
  refine ⟨settings, ?validates, rfl, rfl, rfl, rfl, validate_toValue ?validates none⟩
  rfl

end Tablewright.Settings
