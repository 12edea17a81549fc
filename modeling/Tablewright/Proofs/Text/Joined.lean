/-!
# Joined lists

Lists and texts that are joined by a separator begin with the first of them, and the separator stands
in front of each other one.
-/

namespace Tablewright.Text

variable {α : Type}

/-- In joined lists each but the first has the separator in front. -/
theorem intercalate_cons
    (separator first : List α)
    (others : List (List α)) :
    separator.intercalate (first :: others) = first ++ others.flatMap (separator ++ ·) := by
  induction others generalizing first with
  | nil =>
      simp
  | cons next others inductionHypothesis =>
      rw [List.intercalate_cons_cons, inductionHypothesis, List.flatMap_cons, List.append_assoc,
        List.append_assoc]

theorem intercalate_append
    {lists others : List (List α)}
    (nonempty : lists ≠ [])
    (othersNonempty : others ≠ [])
    (separator : List α) :
    separator.intercalate (lists ++ others) =
      separator.intercalate lists ++ separator ++ separator.intercalate others := by
  obtain ⟨first, rest, rfl⟩ := List.exists_cons_of_ne_nil nonempty
  obtain ⟨other, otherRest, rfl⟩ := List.exists_cons_of_ne_nil othersNonempty
  simp [intercalate_cons]

/-- What stands in joined lists stands in the separator or in one of them. -/
theorem mem_of_mem_intercalate
    {separator : List α}
    {lists : List (List α)}
    {item : α}
    (member : item ∈ separator.intercalate lists) :
    item ∈ separator ∨ ∃ list ∈ lists, item ∈ list := by
  cases lists with
  | nil =>
      simp at member
  | cons first others =>
      rw [intercalate_cons, List.mem_append, List.mem_flatMap] at member
      rcases member with inFirst | ⟨other, isOther, inOther⟩
      · exact Or.inr ⟨first, by simp, inFirst⟩
      · rcases List.mem_append.mp inOther with inSeparator | inList
        · exact Or.inl inSeparator
        · exact Or.inr ⟨other, List.mem_cons_of_mem first isOther, inList⟩

/-- In joined texts each but the first has the separator in front. -/
theorem intercalate_cons_eq_join
    (separator first : String)
    (others : List String) :
    separator.intercalate (first :: others) =
      first ++ String.join (others.map (separator ++ ·)) := by
  induction others generalizing first with
  | nil =>
      simp
  | cons next others inductionHypothesis =>
      rw [String.intercalate_cons_cons, inductionHypothesis, List.map_cons, String.join_cons,
        String.append_assoc, String.append_assoc]

end Tablewright.Text
