import Tablewright.Proofs.Methods.Clashes
import Tablewright.Proofs.Naming.Kept
import Tablewright.Proofs.Settings.Overrides
import Tablewright.Proofs.Text.Identifier

/-!
# Method names of overridden tables

Settings are checked before any name of a method is made. The forms that they give a table are
identifiers, and what makes names of methods of them, in either style, puts nothing among their
characters that an identifier could not go on with. So the names of such a table are definable, and
nothing but the name of a primitive can be wrong with one.
-/

namespace Tablewright.Methods

open Naming (Inflection NameForms Overrides Pluralizer snakeChars)
open Text (GoesOn)

/-- Snake case ends no identifier that a name does not end. -/
theorem goesOn_snakeChars
    {chars : List Char}
    (goesOn : GoesOn chars) :
    GoesOn (snakeChars chars) := by
  obtain ⟨separated, isSnake, sameLetters⟩ := Naming.exists_snakeChars chars
  rw [isSnake]
  apply GoesOn.lowerChars
  intro c member
  by_cases isLowLine : c = '_'
  · rw [isLowLine]
    decide +kernel
  · rw [← Naming.mem_letters_iff isLowLine, sameLetters, Naming.mem_letters_iff isLowLine] at member
    exact goesOn c member

/-- The forms of an override end no identifier, in either style. -/
theorem goesOn_form
    {table : String}
    {given : Inflection}
    (areForms : Settings.AreForms given)
    (style : MethodStyle)
    (primitive : Primitive) :
    GoesOn (primitive.form style (NameForms.ofInflection table given)).toList := by
  have singular : GoesOn given.singular.toList :=
    Text.goesOn_of_isIdentifier areForms.singular.2
  have plural : GoesOn given.plural.toList :=
    Text.goesOn_of_isIdentifier areForms.plural.2
  unfold Primitive.form
  cases style with
  | camel =>
      split
      · exact plural
      · exact singular
  | snake =>
      split
      · simpa [MethodStyle.plural, NameForms.ofInflection, Naming.snake] using
          goesOn_snakeChars plural
      · simpa [MethodStyle.singular, NameForms.ofInflection, Naming.snake] using
          goesOn_snakeChars singular

theorem isIdentifier_verb
    (style : MethodStyle)
    (primitive : Primitive) :
    Text.isIdentifier (primitive.verb style) = true := by
  cases style <;> cases primitive <;> decide +kernel

/-- The names of the methods of a table are definable if its forms are those of an override. -/
theorem isDefinable_of_mem_methodNames
    {table name : String}
    {given : Inflection}
    (areForms : Settings.AreForms given)
    {style : MethodStyle}
    (member : name ∈ methodNames style (NameForms.ofInflection table given)) :
    Text.isDefinable name = true := by
  have free : name ∉ Text.reservedWords :=
    not_reserved_of_mem_methodNames member
  obtain ⟨primitive, -, rfl⟩ := List.mem_map.mp member
  have identifier :
      Text.isIdentifier (methodName style (NameForms.ofInflection table given) primitive) = true :=
    Text.isIdentifier_append (isIdentifier_verb style primitive)
      (goesOn_form areForms style primitive)
  rw [Text.isDefinable, identifier]
  simpa using free

/-- The forms derived for a table that the settings give forms are made of these. -/
theorem derive_of_overridden
    {settings : Settings}
    (validated : settings.IsValidated)
    {table : String}
    {given : Inflection}
    (overridden : settings.pluralOverrides.find? table = some given)
    {pluralizer : Pluralizer}
    {forms : NameForms}
    (derived : NameForms.derive table settings.overrideTable pluralizer = .ok forms) :
    forms = NameForms.ofInflection table given ∧ Settings.AreForms given := by
  obtain ⟨inflection, -, isForms⟩ := Naming.exists_inflection_of_derive derived
  obtain ⟨before, after, shape, -⟩ := List.lookup_eq_some_iff.mp overridden
  have listed : (table, given) ∈ settings.pluralOverrides := by
    rw [shape]
    simp
  refine ⟨?_, validated.pluralOverrides.areForms _ listed⟩
  rw [isForms, validated.find?_overrideTable overridden]
  rfl

/-- Whatever validated settings give a table as its forms, the names of its methods are definable in
either style, and they are refused only when one of them is the name of a primitive. -/
theorem overridden_fault_is_shadow
    {settings : Settings}
    (validated : settings.IsValidated)
    {table : String}
    {given : Inflection}
    (overridden : settings.pluralOverrides.find? table = some given)
    {pluralizer : Pluralizer}
    {forms : NameForms}
    (derived : NameForms.derive table settings.overrideTable pluralizer = .ok forms)
    (style : MethodStyle) :
    (∀ name ∈ methodNames style forms, Text.isDefinable name = true) ∧
      ∀ fault,
        firstFault? (methodNames style forms) = some fault →
        ∃ primitive : Primitive,
          fault = .shadows primitive.name ∧ primitive.name ∈ methodNames style forms := by
  obtain ⟨rfl, areForms⟩ := derive_of_overridden validated overridden derived
  refine ⟨fun name member => isDefinable_of_mem_methodNames areForms member, ?_⟩
  intro fault found
  obtain ⟨name, member, isFault⟩ := List.exists_of_findSome?_eq_some found
  have definable := isDefinable_of_mem_methodNames areForms member
  rcases nameFault?_eq_some (not_reserved_of_mem_methodNames member) isFault with
    ⟨-, noIdentifier⟩ | ⟨shadows, primitive, isPrimitive⟩
  · simp [Text.isDefinable, noIdentifier] at definable
  · rw [isPrimitive] at member shadows
    exact ⟨primitive, shadows, member⟩

/-- A plural that is the name of a primitive behind its verb, and a singular that grows in small
letters. -/
theorem overridden_fault_is_shadow_of_all :
    ∃ (settings : Settings) (forms : NameForms),
      settings.IsValidated ∧
      settings.pluralOverrides.find? "x" = some ⟨"İd", "All"⟩ ∧
      NameForms.derive "x" settings.overrideTable .suffix = .ok forms ∧
      (∀ name ∈ methodNames .snake forms, Text.isDefinable name = true) ∧
      firstFault? (methodNames .snake forms) = some (.shadows "get_all") ∧
      firstFault? (methodNames .camel forms) = none := by
  let settings : Settings :=
    { Settings.standard with pluralOverrides := [("x", ⟨"İd", "All"⟩)] }
  let forms : NameForms := NameForms.ofInflection "x" ⟨"İd", "All"⟩
  have validated : settings.IsValidated :=
    ⟨none,
      .map [(.text "plural_overrides",
        .map [(.text "x", .map [(.text "singular", .text "İd"), (.text "plural", .text "All")])])],
      rfl⟩
  have overridden : settings.pluralOverrides.find? "x" = some ⟨"İd", "All"⟩ :=
    rfl
  have derived : NameForms.derive "x" settings.overrideTable .suffix = .ok forms :=
    rfl
  refine ⟨settings, forms, validated, overridden, derived,
    (overridden_fault_is_shadow validated overridden derived .snake).1, ?_, ?_⟩
  · decide +kernel
  · decide +kernel

end Tablewright.Methods
