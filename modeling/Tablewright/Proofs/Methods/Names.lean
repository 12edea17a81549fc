import Mathlib.Data.List.Nodup
import Mathlib.Logic.Function.Basic
import Tablewright.Methods.Names
import Tablewright.Proofs.Naming.Letters

/-!
# Names of the methods of one table

The verbs of most primitives begin with different letters. The others are told apart by the forms of
the table name, or by the word for many that stands between the verb and the plural. The forms that
the last letter gives a name tell them apart in both styles.
-/

namespace Tablewright.Methods

open Naming (NameForms)

namespace MethodStyle

/-- The word for many, as it stands after a verb. -/
def many : MethodStyle → String
  | .camel => "Many"
  | .snake => "many_"

/-- Whether the forms of a table name keep its methods apart: the singular is neither the plural nor
the plural after the word for many. -/
def Separates
    (style : MethodStyle)
    (forms : NameForms) : Prop :=
  style.singular forms ≠ style.plural forms ∧
    style.singular forms ≠ style.many ++ style.plural forms

instance
    (style : MethodStyle)
    (forms : NameForms) : Decidable (style.Separates forms) :=
  inferInstanceAs (Decidable (_ ∧ _))

end MethodStyle

/-- Every primitive is in the list of all. -/
theorem Primitive.mem_all
    (primitive : Primitive) :
    primitive ∈ Primitive.all := by
  cases primitive <;> decide

/-- The letter that the methods for a primitive begin with. -/
def Primitive.initial : Primitive → Char
  | .getAll => 'g'
  | .getById => 'g'
  | .create => 'c'
  | .createMany => 'c'
  | .update => 'u'
  | .updateMany => 'u'
  | .delete => 'd'

/-- A method begins with the letter of its primitive. -/
theorem head?_methodName
    (style : MethodStyle)
    (forms : NameForms)
    (primitive : Primitive) :
    (methodName style forms primitive).toList.head? = some primitive.initial := by
  unfold methodName
  rw [String.toList_append]
  cases style <;> cases primitive <;> rfl

/-- Reading all rows and reading one are named alike when the plural is the singular. -/
theorem methodName_getAll_eq_getById_iff
    {style : MethodStyle}
    {forms : NameForms} :
    methodName style forms .getAll = methodName style forms .getById ↔
      style.singular forms = style.plural forms := by
  have sameVerb : Primitive.getAll.verb style = Primitive.getById.verb style := by
    cases style <;> rfl
  unfold methodName
  rw [sameVerb, String.append_right_inj]
  exact eq_comm

/-- A method for one row and the one for many are named alike when the singular is the plural after
the word for many. -/
theorem methodName_eq_many_iff
    (style : MethodStyle)
    (forms : NameForms) :
    (methodName style forms .create = methodName style forms .createMany ↔
        style.singular forms = style.many ++ style.plural forms) ∧
      (methodName style forms .update = methodName style forms .updateMany ↔
        style.singular forms = style.many ++ style.plural forms) := by
  have createVerb :
      Primitive.createMany.verb style = Primitive.create.verb style ++ style.many := by
    cases style <;> rfl
  have updateVerb :
      Primitive.updateMany.verb style = Primitive.update.verb style ++ style.many := by
    cases style <;> rfl
  unfold methodName
  rw [createVerb, updateVerb, String.append_assoc, String.append_assoc,
    String.append_right_inj, String.append_right_inj]
  exact ⟨Iff.rfl, Iff.rfl⟩

/-- The methods of a table have different names exactly when the forms keep them apart. -/
theorem methodName_injective_iff
    {style : MethodStyle}
    {forms : NameForms} :
    Function.Injective (methodName style forms) ↔ style.Separates forms := by
  obtain ⟨createIff, updateIff⟩ := methodName_eq_many_iff style forms
  constructor
  · intro injective
    refine ⟨fun same => ?_, fun same => ?_⟩
    · cases injective (methodName_getAll_eq_getById_iff.mpr same)
    · cases injective (createIff.mpr same)
  · rintro ⟨singularOwn, singularSingle⟩ first second same
    have sameInitial : first.initial = second.initial := by
      have heads := congrArg (fun name : String => name.toList.head?) same
      simpa only [head?_methodName, Option.some.injEq] using heads
    have get : methodName style forms .getAll ≠ methodName style forms .getById :=
      fun sameGet => singularOwn (methodName_getAll_eq_getById_iff.mp sameGet)
    have create : methodName style forms .create ≠ methodName style forms .createMany :=
      fun sameCreate => singularSingle (createIff.mp sameCreate)
    have update : methodName style forms .update ≠ methodName style forms .updateMany :=
      fun sameUpdate => singularSingle (updateIff.mp sameUpdate)
    cases first <;> cases second <;>
      first
        | rfl
        | exact absurd sameInitial (by decide)
        | exact (get same).elim
        | exact (get same.symm).elim
        | exact (create same).elim
        | exact (create same.symm).elim
        | exact (update same).elim
        | exact (update same.symm).elim

/-- The seven names are all different exactly when the forms keep them apart. -/
theorem methodNames_nodup_iff
    {style : MethodStyle}
    {forms : NameForms} :
    (methodNames style forms).Nodup ↔ style.Separates forms := by
  have allDiffer : Primitive.all.Nodup := by
    decide
  rw [← methodName_injective_iff, methodNames, List.nodup_map_iff_inj_on allDiffer]
  constructor
  · intro differ first second same
    exact differ first first.mem_all second second.mem_all same
  · intro injective first _ second _ same
    exact injective same

/-! ## Forms by the last letter -/

/-- The singular by the last letter is no text with the plural behind it, as it is and in snake
case. -/
theorem singular_ne_append_plural
    (style : MethodStyle)
    (raw name before : String) :
    style.singular (NameForms.ofInflection raw (Naming.suffixInflection name)) ≠
      before ++ style.plural (NameForms.ofInflection raw (Naming.suffixInflection name)) := by
  let singular := (Naming.suffixForms name.toList).1
  have inflection :
      Naming.suffixInflection name =
        ⟨String.ofList singular, String.ofList (singular ++ ['s'])⟩ := by
    simp [Naming.suffixInflection, Naming.suffixForms_snd, singular]
  rw [inflection]
  intro same
  have letters := congrArg String.toList same
  rw [String.toList_append] at letters
  cases style with
  | camel =>
      apply Naming.ne_append_s before.toList singular
      simpa [MethodStyle.singular, MethodStyle.plural, NameForms.ofInflection] using letters
  | snake =>
      apply Naming.snakeChars_ne_append_s before.toList singular
      simpa [MethodStyle.singular, MethodStyle.plural, NameForms.ofInflection, Naming.snake]
        using letters

/-- The seven names of a table are all different exactly when its singular is neither the plural nor
the plural after the word for many, and the last letter of a name without forms of its own gives it
such forms in both styles. -/
theorem methodNames_distinct :
    (∀ (style : MethodStyle) (forms : NameForms),
      (methodNames style forms).Nodup ↔
        style.singular forms ≠ style.plural forms ∧
          style.singular forms ≠ style.many ++ style.plural forms) ∧
      ∀ (raw : String) (overrides : Naming.Overrides),
        raw ≠ "" →
        overrides.find? raw = none →
        ∃ forms,
          NameForms.derive raw overrides .suffix = .ok forms ∧
            ∀ style : MethodStyle,
              style.singular forms ≠ style.plural forms ∧
                style.singular forms ≠ style.many ++ style.plural forms ∧
                (methodNames style forms).Nodup := by
  refine ⟨fun style forms => methodNames_nodup_iff, fun raw overrides nonempty free => ?_⟩
  refine ⟨_, Naming.derive_of_free nonempty free, fun style => ?_⟩
  have notPlural := singular_ne_append_plural style raw (Naming.pascal raw) ""
  rw [String.empty_append] at notPlural
  have notMany := singular_ne_append_plural style raw (Naming.pascal raw) style.many
  exact ⟨notPlural, notMany, methodNames_nodup_iff.mpr ⟨notPlural, notMany⟩⟩

/-- In small letters the sigma that ends the singular is another than the one before the `s`. -/
theorem methodNames_distinct_of_sigma :
    ∃ forms,
      NameForms.derive "ΟΔΟΣ_İΣ" .builtIn .suffix = .ok forms ∧
        ∀ style : MethodStyle,
          style.singular forms ≠ style.plural forms ∧
            style.singular forms ≠ style.many ++ style.plural forms ∧
            (methodNames style forms).Nodup :=
  methodNames_distinct.2 "ΟΔΟΣ_İΣ" .builtIn (by decide) (by decide)

end Tablewright.Methods
