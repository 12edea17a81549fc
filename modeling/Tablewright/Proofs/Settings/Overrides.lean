import Tablewright.Proofs.Naming.Overrides
import Tablewright.Proofs.Settings.Rules

/-!
# Overrides of validated settings

A validation keeps the overrides of a mapping in their order, each table once, with forms that can be
part of a name. Overrides that are so are what a validation makes of them.
-/

namespace Tablewright.Settings

open Naming (Inflection Overrides)

/-- A form of a table name that can be part of the name of a method. -/
def IsForm
    (form : String) : Prop :=
  form ≠ "" ∧ Text.isIdentifier form = true

/-- The forms of a table can be parts of names. -/
structure AreForms
    (forms : Inflection) : Prop where
  singular : IsForm forms.singular
  plural : IsForm forms.plural

/-- Overrides with each table once, and with forms that can be parts of names. -/
structure AreNormalOverrides
    (overrides : Overrides) : Prop where
  distinct : overrides.tables.Nodup
  areForms : ∀ entry ∈ overrides, AreForms entry.2

theorem formRule_eq_none_iff
    {form : String} :
    formRule form = none ↔ Text.isIdentifier form = true := by
  simp [formRule]

namespace AreNormalOverrides

theorem nil :
    AreNormalOverrides [] where
  distinct := List.nodup_nil
  areForms := List.forall_mem_nil _

/-- Giving a table forms that can be parts of names keeps overrides normal. -/
theorem set
    {overrides : Overrides}
    (normal : AreNormalOverrides overrides)
    (table : String)
    {forms : Inflection}
    (areForms : AreForms forms) :
    AreNormalOverrides (overrides.set table forms) where
  distinct := Overrides.nodup_tables_set normal.distinct
  areForms := by
    intro entry member
    rcases Overrides.mem_of_mem_set member with rfl | wasThere
    · exact areForms
    · exact normal.areForms entry wasThere

end AreNormalOverrides

/-! ## What a validation makes -/

section Checked

variable {place : List String}

/-- A check of a form comes to the text that is given, if that is a form. -/
theorem checkForm_eq_ok_iff
    {name form : String}
    {entries : List (Value × Value)} :
    checkForm place name entries = .ok form ↔
      ∃ given, Value.field? name entries = some given ∧ textOf given = .ok form ∧ IsForm form := by
  unfold checkForm
  dsimp only
  cases Value.field? name entries with
  | none =>
      simp [problem]
  | some given =>
      simp [checkText_eq_ok_iff, formRule_eq_none_iff, IsForm]

/-- What a check makes of the values of options is made of the value of each. -/
theorem map_eq_ok
    {α β : Type}
    {checked : Checked α}
    {change : α → β}
    {made : β}
    (makes : checked.map change = .ok made) :
    ∃ value, checked = .ok value ∧ change value = made := by
  cases checked with
  | error problems =>
      cases makes
  | ok value =>
      exact ⟨value, rfl, Except.ok.inj makes⟩

theorem areForms_of_checkForms
    {value : Value}
    {forms : Inflection}
    (passes : checkForms place value = .ok forms) :
    AreForms forms := by
  unfold checkForms at passes
  split at passes
  · obtain ⟨⟨singular, plural⟩, bothPass, rfl⟩ := map_eq_ok passes
    obtain ⟨singularPasses, pluralPasses⟩ := both_eq_ok_iff.mp bothPass
    obtain ⟨_, -, -, singularIsForm⟩ := checkForm_eq_ok_iff.mp singularPasses
    obtain ⟨_, -, -, pluralIsForm⟩ := checkForm_eq_ok_iff.mp pluralPasses
    exact ⟨singularIsForm, pluralIsForm⟩
  · cases passes

/-- Entries are added to normal overrides one by one, and leave them normal. -/
theorem areNormal_of_checkOverrideEntries
    {checked : Checked Overrides}
    (starts : ∀ overrides, checked = .ok overrides → AreNormalOverrides overrides)
    {entries : List (Value × Value)}
    {overrides : Overrides}
    (passes : checkOverrideEntries place checked entries = .ok overrides) :
    AreNormalOverrides overrides := by
  induction entries generalizing checked with
  | nil =>
      exact starts overrides passes
  | cons entry rest inductionHypothesis =>
      obtain ⟨key, value⟩ := entry
      refine inductionHypothesis ?_ passes
      intro extended passesSoFar
      obtain ⟨⟨before, table, forms⟩, bothPass, rfl⟩ := map_eq_ok passesSoFar
      obtain ⟨isBefore, entryPasses⟩ := both_eq_ok_iff.mp bothPass
      obtain ⟨-, formsPass⟩ := both_eq_ok_iff.mp entryPasses
      exact (starts before isBefore).set table (areForms_of_checkForms formsPass)

theorem areNormal_of_checkOverrides
    {value : Value}
    {overrides : Overrides}
    (passes : checkOverrides place value = .ok overrides) :
    AreNormalOverrides overrides := by
  unfold checkOverrides at passes
  split at passes
  · refine areNormal_of_checkOverrideEntries ?_ passes
    rintro _ ⟨⟩
    exact AreNormalOverrides.nil
  · cases passes

end Checked

/-- The overrides of validated settings are normal. -/
theorem IsValidated.pluralOverrides
    {settings : Settings}
    (validated : settings.IsValidated) :
    AreNormalOverrides settings.pluralOverrides := by
  obtain ⟨entries, passes⟩ := validated.passesChecks
  rcases checkOption_eq_ok passes.pluralOverrides with isOwn | ⟨value, checked⟩
  · rw [isOwn]
    exact AreNormalOverrides.nil
  · exact areNormal_of_checkOverrides checked

/-- The overrides that prevail in a run give a table the forms that the settings give it. -/
theorem IsValidated.find?_overrideTable
    {settings : Settings}
    (validated : settings.IsValidated)
    {table : String}
    {forms : Inflection}
    (given : settings.pluralOverrides.find? table = some forms) :
    settings.overrideTable.find? table = some forms := by
  rw [overrideTable, Overrides.withBuiltIn,
    Overrides.find?_extend validated.pluralOverrides.distinct, given]
  rfl

end Tablewright.Settings
