import Tablewright.Value.Basic

/-!
# Mappings with keys of text

A text is the same key as itself only. So a mapping has a value for it exactly when it is one of the
keys, and an entry with it is set in the place of the one that is there, or else at the end.
-/

namespace Tablewright.Value

/-- Only the text itself is the same key as a text. -/
theorem sameKey_text_iff
    {key : Value}
    {name : String} :
    sameKey key (.text name) = true ↔ key = .text name := by
  cases key with
  | text other => simp [sameKey]
  | float x => cases whole : wholeOfFloat? x <;> simp [sameKey, whole?, whole]
  | bool _ | int _ => simp [sameKey, whole?]
  | null | bytes _ | date _ | moment _ | pair _ _ | list _ | map _ | set _ | enclosing _ =>
      simp [sameKey, whole?]

/-- A text has a value in a mapping exactly when it is one of the keys. -/
theorem isSome_field?_iff
    {name : String}
    {entries : List (Value × Value)} :
    (field? name entries).isSome = true ↔ .text name ∈ entries.map Prod.fst := by
  simp only [field?, lookup?, Option.isSome_map, List.find?_isSome, sameKey_text_iff,
    List.mem_map, Prod.exists]

/-- Entries with one entered: in the place of the first with its key, or at the end if there is
none. -/
def IsEntered
    (key value : Value)
    (entries entered : List (Value × Value)) : Prop :=
  (∃ before old after,
      key ∉ before.map Prod.fst ∧
        entries = before ++ (key, old) :: after ∧
        entered = before ++ (key, value) :: after) ∨
    key ∉ entries.map Prod.fst ∧ entered = entries ++ [(key, value)]

/-- Setting the value of a text enters it. -/
theorem isEntered_setEntry
    (name : String)
    (value : Value)
    (entries : List (Value × Value)) :
    IsEntered (.text name) value entries (setEntry (.text name) value entries) := by
  induction entries with
  | nil =>
      exact .inr ⟨List.not_mem_nil, rfl⟩
  | cons entry rest inductionHypothesis =>
      obtain ⟨other, old⟩ := entry
      by_cases isName : other = .text name
      · subst isName
        refine .inl ⟨[], old, rest, List.not_mem_nil, rfl, ?_⟩
        rw [setEntry, if_pos (sameKey_text_iff.mpr rfl)]
        rfl
      · rw [setEntry, if_neg (mt sameKey_text_iff.mp isName)]
        rcases inductionHypothesis with
          ⟨before, replaced, after, isNew, shape, entered⟩ | ⟨isNew, entered⟩
        · refine .inl ⟨(other, old) :: before, replaced, after, ?_, ?_, ?_⟩
          · exact List.not_mem_cons_of_ne_of_not_mem (Ne.symm isName) isNew
          · rw [shape, List.cons_append]
          · rw [entered, List.cons_append]
        · refine .inr ⟨?_, ?_⟩
          · exact List.not_mem_cons_of_ne_of_not_mem (Ne.symm isName) isNew
          · rw [entered, List.cons_append]

end Tablewright.Value
