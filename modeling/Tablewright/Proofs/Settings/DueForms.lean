import Tablewright.Proofs.Naming.Solid
import Tablewright.Proofs.Settings.Overrides
import Tablewright.Run.Generation

/-!
# Forms that are due to a table

The methods of a table are named by the forms that the settings give it, or else by those that it
always has, or else by those of the pluralizer. What the settings give other tables is of no account.
The pluralizer is asked in any case, and its failure ends the naming of the table. So forms that the
settings give prevail exactly when the pluralizer has some as well.
-/

namespace Tablewright.Settings

open Methods (MethodStyle Primitive methodName)
open Naming (Inflection NameForms NamingError Overrides Pluralizer)

/-- The forms that are due to a table. -/
def dueForms
    (settings : Settings)
    (table : String) : Except NamingError Inflection :=
  match (settings.pluralOverrides.find? table).or (Overrides.builtIn.find? table) with
  | some forms => .ok forms
  | none => settings.pluralizer.inflection table

/-- The forms that a run derives for a table. -/
def formsOf
    (settings : Settings)
    (table : String) : Except NamingError NameForms :=
  let plan := Run.namingPlan settings
  NameForms.derive table plan.overrides plan.pluralizer

/-- A form as it is spelled in names of a style. -/
def spell : MethodStyle → String → String
  | .camel, form => form
  | .snake, form => Naming.snake form

/-- The forms of a name, and the names of all methods in either style, are made of a given singular
and plural. -/
structure AreMadeOf
    (given : Inflection)
    (forms : NameForms) : Prop where
  singular : forms.singular = given.singular
  plural : forms.plural = given.plural
  snakeSingular : forms.snakeSingular = Naming.snake given.singular
  snakePlural : forms.snakePlural = Naming.snake given.plural
  methodName : ∀ style primitive,
    methodName style forms primitive =
      primitive.verb style ++
        spell style (if primitive.isPlural then given.plural else given.singular)

/-- The forms of a table are made of those that are due to it. If none are due, it has none for the
same reason. -/
def HasDueForms
    (settings : Settings)
    (table : String) : Prop :=
  match settings.dueForms table with
  | .ok given => ∃ forms, settings.formsOf table = .ok forms ∧ AreMadeOf given forms
  | .error reason => settings.formsOf table = .error reason

theorem areMadeOf_ofInflection
    (table : String)
    (given : Inflection) :
    AreMadeOf given (NameForms.ofInflection table given) where
  singular := rfl
  plural := rfl
  snakeSingular := rfl
  snakePlural := rfl
  methodName style primitive := by
    unfold methodName Primitive.form
    cases style <;> split <;> rfl

variable {settings : Settings}
variable {table : String}

/-- The overrides that prevail in a run are those of the settings and, for other tables, the built-in
ones. -/
theorem IsValidated.find?_overrideTable_eq_or
    (validated : settings.IsValidated)
    (table : String) :
    settings.overrideTable.find? table =
      (settings.pluralOverrides.find? table).or (Overrides.builtIn.find? table) := by
  rw [overrideTable, Overrides.withBuiltIn,
    Overrides.find?_extend validated.pluralOverrides.distinct]

/-- A run derives the forms of a table from its override or else from what the pluralizer gives, but
in no case without the pluralizer. -/
theorem IsValidated.formsOf_eq
    (validated : settings.IsValidated)
    (named : table ≠ "") :
    settings.formsOf table =
      (settings.pluralizer.inflection table).map fun inflection =>
        NameForms.ofInflection table
          (((settings.pluralOverrides.find? table).or
            (Overrides.builtIn.find? table)).getD inflection) := by
  rw [← validated.find?_overrideTable_eq_or table, formsOf, Run.namingPlan, NameForms.derive,
    if_neg named]
  cases settings.pluralizer.inflection table <;> rfl

/-- Any pluralizer has forms for a table that has built-in ones. -/
theorem exists_inflection_of_builtIn
    {forms : Inflection}
    (isBuiltIn : Overrides.builtIn.find? table = some forms)
    (pluralizer : Pluralizer) :
    ∃ inflection, pluralizer.inflection table = .ok inflection := by
  have isUserType : table = "user_type" := by
    by_contra differs
    rw [Overrides.builtIn, Overrides.find?_cons, if_neg differs] at isBuiltIn
    cases isBuiltIn
  rw [isUserType]
  exact Naming.exists_inflection ⟨by decide, by decide +kernel⟩ pluralizer

/-- A table has the forms that are due to it when the pluralizer has some for it. -/
theorem IsValidated.hasDueForms_of_inflection
    (validated : settings.IsValidated)
    (named : table ≠ "")
    {inflection : Inflection}
    (inflects : settings.pluralizer.inflection table = .ok inflection) :
    settings.HasDueForms table := by
  rw [HasDueForms, dueForms, validated.formsOf_eq named, inflects]
  cases (settings.pluralOverrides.find? table).or (Overrides.builtIn.find? table) with
  | some given =>
      exact ⟨_, rfl, areMadeOf_ofInflection table given⟩
  | none =>
      exact ⟨_, rfl, areMadeOf_ofInflection table inflection⟩

/-- The forms that are due to a table prevail exactly when the settings give it none or the pluralizer
has some. -/
theorem IsValidated.hasDueForms_iff
    (validated : settings.IsValidated)
    (named : table ≠ "") :
    settings.HasDueForms table ↔
      settings.pluralOverrides.find? table = none ∨
        ∃ inflection, settings.pluralizer.inflection table = .ok inflection := by
  cases inflects : settings.pluralizer.inflection table with
  | ok inflection =>
      have prevail := validated.hasDueForms_of_inflection named inflects
      exact ⟨fun _ => .inr ⟨inflection, rfl⟩, fun _ => prevail⟩
  | error reason =>
      have notDerived : settings.formsOf table = .error reason := by
        rw [validated.formsOf_eq named, inflects]
        rfl
      have notBuiltIn : Overrides.builtIn.find? table = none := by
        cases isBuiltIn : Overrides.builtIn.find? table with
        | none =>
            rfl
        | some forms =>
            obtain ⟨inflection, hasForms⟩ :=
              exists_inflection_of_builtIn isBuiltIn settings.pluralizer
            rw [hasForms] at inflects
            cases inflects
      unfold HasDueForms dueForms
      cases isGiven : settings.pluralOverrides.find? table with
      | none =>
          simp [notBuiltIn, inflects, notDerived]
      | some given =>
          simp [notDerived]

/-- A table has the forms that are due to it exactly when the settings give it none or the pluralizer
has some, as it has for any name when it goes by suffixes and for any name without blanks. The forms
of a table stay the same whatever other tables are given. The overrides of a run hold each table once,
the built-in ones first and then the others in the order of the settings, with the forms that the
settings give or else the built-in ones. -/
theorem overrides_prevail_iff
    (validated : settings.IsValidated)
    (named : table ≠ "") :
    (settings.HasDueForms table ↔
        settings.pluralOverrides.find? table = none ∨
          ∃ inflection, settings.pluralizer.inflection table = .ok inflection) ∧
      (settings.pluralizer = .suffix ∨ Text.IsSolid table → settings.HasDueForms table) ∧
      (∀ others : Settings,
        others.IsValidated →
        others.pluralizer = settings.pluralizer →
        others.pluralOverrides.find? table = settings.pluralOverrides.find? table →
        others.formsOf table = settings.formsOf table) ∧
      settings.overrideTable.tables =
        Overrides.builtIn.tables ++
          settings.pluralOverrides.tables.filter (fun other => other ∉ Overrides.builtIn.tables) ∧
      settings.overrideTable.tables.Nodup ∧
      ∀ other,
        settings.overrideTable.find? other =
          (settings.pluralOverrides.find? other).or (Overrides.builtIn.find? other) := by
  refine ⟨validated.hasDueForms_iff named, ?_, ?_, ?_, ?_,
    validated.find?_overrideTable_eq_or⟩
  · intro hasForms
    refine (validated.hasDueForms_iff named).mpr (.inr ?_)
    rcases hasForms with bySuffix | solid
    · rw [bySuffix]
      exact ⟨_, rfl⟩
    · exact Naming.exists_inflection solid settings.pluralizer
  · intro others othersValidated samePluralizer sameEntry
    rw [validated.formsOf_eq named, othersValidated.formsOf_eq named, samePluralizer, sameEntry]
  · exact Overrides.tables_extend validated.pluralOverrides.distinct
  · exact Overrides.nodup_tables_extend (by decide) settings.pluralOverrides

/-- Settings that ask for the lexicon and give overrides. -/
private def lexiconWith
    (overrides : Overrides) : Settings :=
  { Settings.standard with
    pluralizer := .inflect
    pluralOverrides := overrides }

/-- The options that make such settings. -/
private def lexiconOptions
    (overrides : Overrides) : Value :=
  .map [(.text "pluralizer", .text "inflect"), (.text "plural_overrides", overridesValue overrides)]

/-- A table with forms of its own, beside a built-in one that is given others or left alone. -/
theorem overrides_prevail_iff_of_people :
    ∃ settings others : Settings,
      settings.IsValidated ∧
      others.IsValidated ∧
      settings.pluralOverrides =
        [("people", ⟨"Human", "Humans"⟩), ("user_type", ⟨"Account", "Accounts"⟩)] ∧
      others.pluralOverrides = [("people", ⟨"Human", "Humans"⟩)] ∧
      others.pluralizer = settings.pluralizer ∧
      "people" ≠ "" ∧
      settings.HasDueForms "people" ∧
      others.formsOf "people" = settings.formsOf "people" ∧
      settings.overrideTable.tables = ["user_type", "people"] ∧
      settings.overrideTable.find? "user_type" = some ⟨"Account", "Accounts"⟩ := by
  let settings :=
    lexiconWith [("people", ⟨"Human", "Humans"⟩), ("user_type", ⟨"Account", "Accounts"⟩)]
  let others := lexiconWith [("people", ⟨"Human", "Humans"⟩)]
  have validated : settings.IsValidated :=
    ⟨none, lexiconOptions
      [("people", ⟨"Human", "Humans"⟩), ("user_type", ⟨"Account", "Accounts"⟩)], by rfl⟩
  have othersValidated : others.IsValidated :=
    ⟨none, lexiconOptions [("people", ⟨"Human", "Humans"⟩)], by rfl⟩
  have named : "people" ≠ "" := by decide
  obtain ⟨-, dueForms, apart, tables, -, found⟩ := overrides_prevail_iff validated named
  have solid : Text.IsSolid "people" := ⟨by decide, by decide +kernel⟩
  refine ⟨settings, others, validated, othersValidated, rfl, rfl, rfl, named,
    dueForms (.inr solid), apart others othersValidated rfl rfl, ?_, ?_⟩
  · rw [tables]
    decide
  · rw [found "user_type"]
    rfl

/-- Forms that the settings give a table are lost when the last segment of its name is blank and the
pluralizer goes by the lexicon. -/
theorem override_lost_of_blank_segment :
    ∃ settings : Settings,
      settings.IsValidated ∧
      settings.pluralOverrides.find? "audit_ " = some ⟨"Audit", "Audits"⟩ ∧
      settings.formsOf "audit_ " = .error .noWord ∧
      ¬ settings.HasDueForms "audit_ " := by
  let settings := lexiconWith [("audit_ ", ⟨"Audit", "Audits"⟩)]
  have validated : settings.IsValidated :=
    ⟨none, lexiconOptions [("audit_ ", ⟨"Audit", "Audits"⟩)], by rfl⟩
  have given : settings.pluralOverrides.find? "audit_ " = some ⟨"Audit", "Audits"⟩ := rfl
  have fails : settings.formsOf "audit_ " = .error .noWord := rfl
  refine ⟨settings, validated, given, fails, ?_⟩
  rw [HasDueForms, dueForms, given, fails]
  rintro ⟨forms, ⟨⟩, -⟩

end Tablewright.Settings
