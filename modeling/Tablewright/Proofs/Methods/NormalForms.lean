import Tablewright.Proofs.Methods.Names
import Tablewright.Proofs.Text.Normal

/-!
# Method names in normal form

The verbs of methods are in ASCII, so a class knows a method by a name that begins with the verb, up
to its last letter. This tells which methods can come to have the name of a primitive.
-/

namespace Tablewright.Methods

open Naming (NameForms)
open Text (normalForm IsAscii exists_toList_normalForm)

section

variable {style : MethodStyle}
variable {forms : NameForms}

/-- A method still begins with the letter of its primitive in normal form. -/
theorem head?_normalForm_methodName
    (primitive : Primitive) :
    (normalForm (methodName style forms primitive)).toList.head? = some primitive.initial := by
  have beginning :
      ∃ second rest,
        (primitive.verb style).toList = primitive.initial :: second :: rest ∧
          IsAscii primitive.initial ∧ IsAscii second := by
    cases style <;> cases primitive <;> exact ⟨_, _, rfl, by decide, by decide⟩
  obtain ⟨second, rest, isVerb, firstAscii, secondAscii⟩ := beginning
  have isName :
      (methodName style forms primitive).toList =
        [primitive.initial] ++ second :: (rest ++ (primitive.form style forms).toList) := by
    rw [methodName, String.toList_append, isVerb]
    rfl
  have ascii : ∀ c ∈ [primitive.initial] ++ [second], IsAscii c := by
    simp [firstAscii, secondAscii]
  obtain ⟨next, behind, isForm⟩ := exists_toList_normalForm isName ascii
  rw [isForm]
  rfl

theorem initial_eq_of_normalForm
    {primitive : Primitive}
    {name : String}
    (isForm : normalForm (methodName style forms primitive) = name) :
    name.toList.head? = some primitive.initial := by
  rw [← isForm, head?_normalForm_methodName]

/-- Updating many rows of a table is called neither like updating many rows nor like updating
one. -/
theorem normalForm_updateMany_ne
    {name : String}
    (isOther : name = Primitive.updateMany.name ∨ name = Primitive.update.name) :
    normalForm (methodName style forms .updateMany) ≠ name := by
  intro isForm
  have letters := congrArg String.toList isForm
  cases style with
  | camel =>
      have isName :
          (methodName .camel forms .updateMany).toList =
            "updateM".toList ++ 'a' :: ("ny".toList ++ forms.plural.toList) := by
        rw [methodName, String.toList_append]
        rfl
      obtain ⟨next, behind, begins⟩ := exists_toList_normalForm isName (by simp [IsAscii])
      rw [begins] at letters
      rcases isOther with rfl | rfl <;> simp [Primitive.name] at letters
  | snake =>
      have isName :
          (methodName .snake forms .updateMany).toList =
            "update_many".toList ++ '_' :: forms.snakePlural.toList := by
        rw [methodName, String.toList_append]
        rfl
      obtain ⟨next, behind, begins⟩ := exists_toList_normalForm isName (by simp [IsAscii])
      rw [begins] at letters
      rcases isOther with rfl | rfl <;> simp [Primitive.name] at letters

/-- Updating a row of a table is called like updating a row only if it is called so before it is put
in normal form. -/
theorem methodName_eq_of_normalForm_update
    (isForm : normalForm (methodName style forms .update) = Primitive.update.name) :
    methodName style forms .update = Primitive.update.name := by
  have letters := congrArg String.toList isForm
  cases style with
  | camel =>
      have isName :
          (methodName .camel forms .update).toList =
            "updat".toList ++ 'e' :: forms.singular.toList := by
        rw [methodName, String.toList_append]
        rfl
      have noneBehind := Text.eq_nil_of_normalForm isName (by simp [IsAscii]) letters
      rw [noneBehind] at isName
      exact String.toList_inj.mp isName
  | snake =>
      have isName :
          (methodName .snake forms .update).toList =
            "update".toList ++ '_' :: forms.snakeSingular.toList := by
        rw [methodName, String.toList_append]
        rfl
      obtain ⟨next, behind, begins⟩ := exists_toList_normalForm isName (by simp [IsAscii])
      rw [begins] at letters
      simp [Primitive.name] at letters

end

end Tablewright.Methods
