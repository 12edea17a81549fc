import Mathlib.Data.List.Basic
import Tablewright.Text.Occurrence

/-!
# First occurrences

A text is split at the first occurrence of another one when there is one, so that replacing the
first occurrence keeps what is before and after it, and keeps everything when there is none.
-/

namespace Tablewright.Text

/-- A text is `before`, `needle` and `after`, and `needle` does not occur at an earlier position. -/
structure IsSplitAtFirst
    (needle text before after : List Char) : Prop where
  shape : text = before ++ needle ++ after
  first :
    ∀ earlier rest,
      text = earlier ++ needle ++ rest →
      before.length ≤ earlier.length

/-- What is at the beginning of a text is what remains of it without the first characters. -/
theorem isPrefixOf?_eq_some_iff_append
    {needle text after : List Char} :
    needle.isPrefixOf? text = some after ↔ text = needle ++ after := by
  rw [List.isPrefixOf?_eq_some_iff_append_eq]
  exact eq_comm

/-- An occurrence behind a character that begins none is one in the rest. -/
private theorem exists_of_cons_eq
    {needle rest earlier later : List Char}
    {c : Char}
    (absent : needle.isPrefixOf? (c :: rest) = none)
    (occurs : c :: rest = earlier ++ needle ++ later) :
    ∃ between, earlier = c :: between ∧ rest = between ++ needle ++ later := by
  cases earlier with
  | nil =>
      have found : needle.isPrefixOf? (c :: rest) = some later :=
        isPrefixOf?_eq_some_iff_append.mpr occurs
      rw [absent] at found
      cases found
  | cons first between =>
      simp only [List.cons_append, List.cons.injEq] at occurs
      obtain ⟨rfl, shape⟩ := occurs
      exact ⟨between, rfl, shape⟩

/-- A text that is not split has no occurrence. -/
theorem splitAtFirst?_eq_none_iff
    {needle text : List Char} :
    splitAtFirst? needle text = none ↔
      ∀ before after, text ≠ before ++ needle ++ after := by
  induction text with
  | nil =>
      cases needle <;> simp [splitAtFirst?]
  | cons c rest inductionHypothesis =>
      unfold splitAtFirst?
      split
      · next after found =>
          have shape := isPrefixOf?_eq_some_iff_append.mp found
          simp only [reduceCtorEq, false_iff]
          intro absent
          exact absent [] after shape
      · next absent =>
          rw [Option.map_eq_none_iff, inductionHypothesis]
          constructor
          · intro noneInRest before after occurs
            obtain ⟨between, -, shape⟩ := exists_of_cons_eq absent occurs
            exact noneInRest between after shape
          · intro noneAtAll before after occurs
            apply noneAtAll (c :: before) after
            rw [occurs]
            rfl

/-- A text that is split is split at the first occurrence. -/
theorem isSplitAtFirst_of_splitAtFirst?
    {needle text before after : List Char}
    (splits : splitAtFirst? needle text = some (before, after)) :
    IsSplitAtFirst needle text before after := by
  induction text generalizing before with
  | nil =>
      cases needle with
      | nil =>
          cases splits
          exact ⟨rfl, fun _ _ _ => Nat.zero_le _⟩
      | cons first others =>
          cases splits
  | cons c rest inductionHypothesis =>
      unfold splitAtFirst? at splits
      split at splits
      · next found =>
          cases splits
          exact ⟨isPrefixOf?_eq_some_iff_append.mp found, fun _ _ _ => Nat.zero_le _⟩
      · next absent =>
          obtain ⟨⟨between, later⟩, splitsRest, same⟩ := Option.map_eq_some_iff.mp splits
          cases same
          obtain ⟨shape, first⟩ := inductionHypothesis splitsRest
          refine ⟨by rw [shape]; rfl, fun earlier others occurs => ?_⟩
          obtain ⟨beginning, rfl, shapeRest⟩ := exists_of_cons_eq absent occurs
          exact Nat.succ_le_succ (first beginning others shapeRest)

/-- There is one first occurrence only. -/
theorem IsSplitAtFirst.unique
    {needle text before after otherBefore otherAfter : List Char}
    (isFirst : IsSplitAtFirst needle text before after)
    (otherIsFirst : IsSplitAtFirst needle text otherBefore otherAfter) :
    before = otherBefore ∧ after = otherAfter := by
  have sameLength : before.length = otherBefore.length :=
    Nat.le_antisymm (isFirst.first _ _ otherIsFirst.shape)
      (otherIsFirst.first _ _ isFirst.shape)
  have sameText : before ++ (needle ++ after) = otherBefore ++ (needle ++ otherAfter) := by
    rw [← List.append_assoc, ← List.append_assoc, ← isFirst.shape, ← otherIsFirst.shape]
  obtain ⟨sameBefore, sameRest⟩ := List.append_inj sameText sameLength
  exact ⟨sameBefore, List.append_cancel_left sameRest⟩

/-- A text is split exactly at the first occurrence. -/
theorem splitAtFirst?_eq_some_iff
    {needle text before after : List Char} :
    splitAtFirst? needle text = some (before, after) ↔
      IsSplitAtFirst needle text before after := by
  constructor
  · exact isSplitAtFirst_of_splitAtFirst?
  · intro isFirst
    cases splits : splitAtFirst? needle text with
    | none =>
        exact (splitAtFirst?_eq_none_iff.mp splits before after isFirst.shape).elim
    | some parts =>
        obtain ⟨sameBefore, sameAfter⟩ :=
          isFirst.unique (isSplitAtFirst_of_splitAtFirst? splits)
        rw [sameBefore, sameAfter]

/-- Counting after some characters is counting in what remains without them. -/
theorem countFrom_eq_drop
    (needle : List Char)
    (skip : Nat)
    (text : List Char) :
    countFrom needle skip text = countFrom needle 0 (text.drop skip) := by
  induction text generalizing skip with
  | nil =>
      simp [countFrom]
  | cons c rest inductionHypothesis =>
      cases skip with
      | zero =>
          rfl
      | succ skip =>
          exact inductionHypothesis skip

/-- The first occurrence counts, and then those after it. -/
theorem countFrom_eq
    {needle : List Char}
    (nonempty : needle ≠ [])
    (text : List Char) :
    countFrom needle 0 text =
      match splitAtFirst? needle text with
      | some (_, after) => countFrom needle 0 after + 1
      | none => 0 := by
  induction text with
  | nil =>
      cases needle with
      | nil =>
          exact (nonempty rfl).elim
      | cons first others =>
          rfl
  | cons c rest inductionHypothesis =>
      rw [countFrom, splitAtFirst?, ← List.isSome_isPrefixOf?_eq_isPrefixOf]
      cases here : needle.isPrefixOf? (c :: rest) with
      | some after =>
          have shape := isPrefixOf?_eq_some_iff_append.mp here
          have remains : rest.drop (needle.length - 1) = after := by
            cases needle with
            | nil =>
                exact (nonempty rfl).elim
            | cons first others =>
                rw [List.cons_append, List.cons.injEq] at shape
                simp [shape.2]
          simp [countFrom_eq_drop needle (needle.length - 1), remains]
      | none =>
          rw [inductionHypothesis]
          cases splitAtFirst? needle rest <;> rfl

/-- Nothing is counted exactly when there is no occurrence. -/
theorem countFrom_eq_zero_iff
    {needle : List Char}
    (nonempty : needle ≠ [])
    {text : List Char} :
    countFrom needle 0 text = 0 ↔ splitAtFirst? needle text = none := by
  rw [countFrom_eq nonempty]
  cases splitAtFirst? needle text <;> simp

/-- Counting in a text is counting in its characters. -/
theorem countOccurrences_eq_countFrom
    {needle : String}
    (nonempty : needle.toList ≠ [])
    (text : String) :
    countOccurrences needle text = countFrom needle.toList 0 text.toList := by
  unfold countOccurrences
  cases shape : needle.toList with
  | nil =>
      exact (nonempty shape).elim
  | cons first others =>
      rfl

end Tablewright.Text
