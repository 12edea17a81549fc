import Tablewright.Settings.Validation

/-!
# Rules that validated settings keep

Settings that come out of a validation have options that passed their checks or have the values of
their own, so they keep the rules of these checks.
-/

namespace Tablewright.Settings

open Methods (MethodStyle)
open Naming (Pluralizer)

/-- Settings that come out of a validation. -/
def IsValidated
    (settings : Settings) : Prop :=
  ∃ file? value,
    validate file? value = .ok settings

/-- The settings of a run that sets no option are validated. -/
theorem standard_isValidated :
    standard.IsValidated :=
  ⟨none, .map [], rfl⟩

/-- Two options are fine together when each of them is. -/
theorem both_eq_ok_iff
    {α β : Type}
    {a : Checked α}
    {b : Checked β}
    {pair : α × β} :
    both a b = .ok pair ↔ a = .ok pair.1 ∧ b = .ok pair.2 := by
  rcases pair with ⟨x, y⟩
  cases a <;> cases b <;> simp [both]

/-- An option is fine when it passed its check or has the value of its own. -/
theorem checkOption_eq_ok
    {α : Type}
    {entries : List (Value × Value)}
    {name : String}
    {own checked : α}
    {check : List String → Value → Checked α}
    (passes : checkOption entries name own check = .ok checked) :
    checked = own ∨
      ∃ value, check [name] value = .ok checked := by
  unfold checkOption at passes
  split at passes
  · cases passes
    exact Or.inl rfl
  · next value given =>
      exact Or.inr ⟨value, passes⟩

@[simp]
theorem misfitting_ok
    {α : Type}
    (place : List String)
    (value : α) :
    misfitting place (.ok value) = .ok value :=
  rfl

@[simp]
theorem misfitting_error
    {α : Type}
    (place : List String)
    (fault : ScalarFault) :
    misfitting place (.error fault) = (problem place fault.message : Checked α) :=
  rfl

/-- A check of a text comes to the text of the value if that is not empty and keeps the rule. -/
theorem checkText_eq_ok_iff
    {place : List String}
    {rule : String → Option String}
    {value : Value}
    {text : String} :
    checkText place rule value = .ok text ↔
      textOf value = .ok text ∧ text ≠ "" ∧ rule text = none := by
  unfold checkText
  cases textOf value with
  | error fault =>
      simp [problem, bind, Except.bind]
  | ok candidate =>
      simp only [misfitting_ok, bind, Except.bind, Except.ok.injEq]
      by_cases isEmpty : candidate = ""
      · rw [if_pos isEmpty]
        refine iff_of_false (by simp [problem]) ?_
        rintro ⟨rfl, nonempty, -⟩
        exact nonempty isEmpty
      · rw [if_neg isEmpty]
        cases keeps : rule candidate with
        | some message =>
            refine iff_of_false (by simp [broken, problem]) ?_
            rintro ⟨rfl, -, keepsToo⟩
            cases keeps.symm.trans keepsToo
        | none =>
            constructor
            · rintro ⟨⟩
              exact ⟨rfl, isEmpty, keeps⟩
            · rintro ⟨rfl, -, -⟩
              rfl

/-- A text that passed its check is not empty and keeps its rule. -/
theorem checkText_eq_ok
    {place : List String}
    {rule : String → Option String}
    {value : Value}
    {text : String}
    (passes : checkText place rule value = .ok text) :
    text ≠ "" ∧ rule text = none :=
  (checkText_eq_ok_iff.mp passes).2

/-- A text option whose own value keeps the rule keeps it when it is fine. -/
theorem rule_of_checkOption_checkText
    {entries : List (Value × Value)}
    {name own text : String}
    {rule : String → Option String}
    (ownKeeps : own ≠ "" ∧ rule own = none)
    (passes : checkOption entries name own (checkText · rule ·) = .ok text) :
    text ≠ "" ∧ rule text = none := by
  rcases checkOption_eq_ok passes with isOwn | ⟨value, checked⟩
  · rw [isOwn]
    exact ownKeeps
  · exact checkText_eq_ok checked

/-- Every option of some settings passed its own check of the entries. -/
structure PassesChecks
    (entries : List (Value × Value))
    (settings : Settings) : Prop where
  className :
    checkOption entries "class_name" standard.className
      (checkText · classNameRule ·) = .ok settings.className
  templateFilename :
    checkOption entries "template_filename" standard.templateFilename
      (checkText · filenameRule ·) = .ok settings.templateFilename
  placeholder :
    checkOption entries "placeholder" standard.placeholder
      (checkText · placeholderRule ·) = .ok settings.placeholder
  methodStyle :
    checkOption entries "method_style" standard.methodStyle
      (checkChoice · MethodStyle.ofName? "'camel' or 'snake'" ·) = .ok settings.methodStyle
  pluralizer :
    checkOption entries "pluralizer" standard.pluralizer
      (checkChoice · Pluralizer.ofName? "'suffix' or 'inflect'" ·) = .ok settings.pluralizer
  pluralOverrides :
    checkOption entries "plural_overrides" standard.pluralOverrides checkOverrides =
      .ok settings.pluralOverrides
  includeTables :
    checkTablesOption entries "include_tables" = .ok (.ok settings.includeTables)
  excludeTables :
    checkTablesOption entries "exclude_tables" = .ok (.ok settings.excludeTables)
  deleteWaitTimeout :
    checkOption entries "delete_wait_timeout" standard.deleteWaitTimeout checkTimeout =
      .ok settings.deleteWaitTimeout
  formatCode :
    checkOption entries "format_code" standard.formatCode
      (fun place value => misfitting place (truthOf value)) = .ok settings.formatCode

/-- Settings that are made from entries passed the check of each option. -/
theorem passesChecks_of_ofEntries
    {entries : List (Value × Value)}
    {settings : Settings}
    (made : ofEntries entries = .ok (.ok settings)) :
    PassesChecks entries settings := by
  unfold ofEntries at made
  cases included : checkTablesOption entries "include_tables" with
  | error interruption =>
      simp [included, bind, Except.bind] at made
  | ok includeTables =>
      cases excluded : checkTablesOption entries "exclude_tables" with
      | error interruption =>
          simp [included, excluded, bind, Except.bind] at made
      | ok excludeTables =>
          simp only [included, excluded, bind, Except.bind, pure, Except.pure,
            Except.ok.injEq] at made
          generalize collected : both (checkOption entries "class_name" _ _) _ = result at made
          cases result with
          | error problems =>
              cases made
          | ok options =>
              cases made
              simp only [both_eq_ok_iff] at collected
              obtain ⟨className, templateFilename, placeholder, methodStyle, pluralizer,
                pluralOverrides, fineInclude, fineExclude, deleteWaitTimeout, formatCode⟩ :=
                collected
              subst fineInclude fineExclude
              exact ⟨className, templateFilename, placeholder, methodStyle, pluralizer,
                pluralOverrides, included, excluded, deleteWaitTimeout, formatCode⟩

/-- Validated settings passed the checks of some entries. -/
theorem IsValidated.passesChecks
    {settings : Settings}
    (validated : settings.IsValidated) :
    ∃ entries, PassesChecks entries settings := by
  obtain ⟨file?, value, validates⟩ := validated
  unfold validate at validates
  split at validates
  · cases validates
  · cases validates
  · next made =>
      cases validates
      unfold ofValue at made
      split at made
      · next entries =>
          exact ⟨entries, passesChecks_of_ofEntries made⟩
      · simp [problem] at made

/-- A validated template has a single name. -/
theorem IsValidated.templateFilename
    {settings : Settings}
    (validated : settings.IsValidated) :
    settings.templateFilename ≠ "" ∧
      (Files.Path.ofText settings.templateFilename).name = settings.templateFilename := by
  obtain ⟨entries, passes⟩ := validated.passesChecks
  obtain ⟨nonempty, keeps⟩ :=
    rule_of_checkOption_checkText (by decide) passes.templateFilename
  refine ⟨nonempty, ?_⟩
  unfold filenameRule at keeps
  split at keeps
  · next bare =>
      exact bare
  · cases keeps

/-- A validated class has a name that can be defined. -/
theorem IsValidated.className
    {settings : Settings}
    (validated : settings.IsValidated) :
    Text.isDefinable settings.className = true := by
  obtain ⟨entries, passes⟩ := validated.passesChecks
  obtain ⟨-, keeps⟩ := rule_of_checkOption_checkText (by decide +kernel) passes.className
  unfold classNameRule at keeps
  split at keeps
  · next definable =>
      exact definable
  · cases keeps

/-- A validated marker has no line feed and is not blank. -/
theorem IsValidated.placeholder
    {settings : Settings}
    (validated : settings.IsValidated) :
    '\n' ∉ settings.placeholder.toList ∧ Text.strip settings.placeholder ≠ "" := by
  obtain ⟨entries, passes⟩ := validated.passesChecks
  obtain ⟨-, keeps⟩ := rule_of_checkOption_checkText (by decide +kernel) passes.placeholder
  unfold placeholderRule at keeps
  split at keeps
  · cases keeps
  · next fine =>
      simpa using fine

end Tablewright.Settings
