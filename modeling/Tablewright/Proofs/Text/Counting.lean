import Tablewright.Proofs.Text.Occurrence

/-!
# How often a text occurs

Occurrences are counted from the left, each after the end of the one before. This gives the greatest
number of occurrences that do not overlap, and one more than the count behind the first occurrence.
-/

namespace Tablewright.Text

/-- The needle is somewhere in the text. -/
def Occurs
    (needle text : String) : Prop :=
  ∃ before after, text = before ++ needle ++ after

/-- The text is `before`, the needle and `after`, and the needle does not start earlier. -/
structure IsFirstOccurrence
    (needle text before after : String) : Prop where
  shape : text = before ++ needle ++ after
  first :
    ∀ earlier rest,
      text = earlier ++ needle ++ rest →
      before.length ≤ earlier.length

/-- There are so many occurrences in the text, each behind the end of the one before. -/
inductive OccursApart
    (needle : String) : Nat → String → Prop where
  | none (text : String) :
      OccursApart needle 0 text
  | more
      {count : Nat}
      (before : String)
      {after : String}
      (others : OccursApart needle count after) :
      OccursApart needle (count + 1) (before ++ needle ++ after)

/-- The greatest number of occurrences that do not overlap. -/
structure IsCount
    (needle text : String)
    (count : Nat) : Prop where
  attained : OccursApart needle count text
  greatest : ∀ other, OccursApart needle other text → other ≤ count

section Splitting

variable {needle text before after : String}

theorem splitAtFirst?_eq_some_iff_isFirstOccurrence :
    splitAtFirst? needle.toList text.toList = some (before.toList, after.toList) ↔
      IsFirstOccurrence needle text before after := by
  rw [splitAtFirst?_eq_some_iff]
  constructor
  · rintro ⟨shape, first⟩
    refine ⟨String.toList_inj.mp (by simpa using shape), ?_⟩
    intro earlier rest occurs
    have earliest := first earlier.toList rest.toList (by simp [occurs])
    rwa [String.length_toList, String.length_toList] at earliest
  · rintro ⟨shape, first⟩
    refine ⟨by simp [shape], ?_⟩
    intro earlier rest occurs
    have same : text = .ofList earlier ++ needle ++ .ofList rest :=
      String.toList_inj.mp (by simpa using occurs)
    have earliest := first (.ofList earlier) (.ofList rest) same
    rwa [String.length_ofList, ← String.length_toList] at earliest

theorem splitAtFirst?_eq_none_iff_not_occurs :
    splitAtFirst? needle.toList text.toList = none ↔ ¬ Occurs needle text := by
  rw [splitAtFirst?_eq_none_iff]
  constructor
  · rintro absent ⟨before, after, rfl⟩
    exact absent before.toList after.toList (by simp)
  · intro absent before after occurs
    apply absent
    exact ⟨.ofList before, .ofList after, String.toList_inj.mp (by simpa using occurs)⟩

/-- What occurs has a first occurrence. -/
theorem Occurs.exists_isFirstOccurrence
    (occurs : Occurs needle text) :
    ∃ before after, IsFirstOccurrence needle text before after := by
  cases splits : splitAtFirst? needle.toList text.toList with
  | none =>
      exact (splitAtFirst?_eq_none_iff_not_occurs.mp splits occurs).elim
  | some parts =>
      obtain ⟨before, after⟩ := parts
      refine ⟨.ofList before, .ofList after, ?_⟩
      rw [← splitAtFirst?_eq_some_iff_isFirstOccurrence]
      simpa using splits

theorem IsFirstOccurrence.occurs
    (isFirst : IsFirstOccurrence needle text before after) :
    Occurs needle text :=
  ⟨before, after, isFirst.shape⟩

/-- What lies behind an occurrence lies behind the first one. -/
theorem IsFirstOccurrence.exists_between
    {chosen behind : String}
    (isFirst : IsFirstOccurrence needle (chosen ++ needle ++ behind) before after) :
    ∃ between, after = between ++ behind := by
  have notLater := isFirst.first chosen behind rfl
  have sameLength := congrArg String.length isFirst.shape
  simp only [String.length_append] at sameLength
  have notLonger : behind.toList.length ≤ after.toList.length := by
    rw [String.length_toList, String.length_toList]
    omega
  have endsWithAfter : after.toList <:+ (chosen ++ needle ++ behind).toList := by
    rw [isFirst.shape, String.toList_append]
    exact List.suffix_append _ _
  have endsWithBehind : behind.toList <:+ (chosen ++ needle ++ behind).toList := by
    rw [String.toList_append]
    exact List.suffix_append _ _
  obtain ⟨between, isAfter⟩ :=
    List.suffix_of_suffix_length_le endsWithBehind endsWithAfter notLonger
  exact ⟨.ofList between, String.toList_inj.mp (by simp [isAfter])⟩

/-- The first occurrence is the one that is replaced. -/
theorem IsFirstOccurrence.replaceFirst_eq
    (isFirst : IsFirstOccurrence needle text before after)
    (replacement : String) :
    replaceFirst needle replacement text = before ++ replacement ++ after := by
  have splits := splitAtFirst?_eq_some_iff_isFirstOccurrence.mpr isFirst
  rw [replaceFirst, splits, ← String.toList_inj]
  simp

theorem replaceFirst_of_not_occurs
    (absent : ¬ Occurs needle text)
    (replacement : String) :
    replaceFirst needle replacement text = text := by
  have splits := splitAtFirst?_eq_none_iff_not_occurs.mpr absent
  rw [replaceFirst, splits]

end Splitting

section Counting

variable {needle : String}
variable (nonempty : needle ≠ "")
variable {text before after : String}

include nonempty

private theorem toList_ne_nil : needle.toList ≠ [] :=
  fun isNil => nonempty (String.toList_eq_nil_iff.mp isNil)

/-- Nothing is counted exactly when there is no occurrence. -/
theorem countOccurrences_eq_zero_iff :
    countOccurrences needle text = 0 ↔ ¬ Occurs needle text := by
  have someChars := toList_ne_nil nonempty
  rw [countOccurrences_eq_countFrom someChars, countFrom_eq_zero_iff someChars,
    splitAtFirst?_eq_none_iff_not_occurs]

/-- The first occurrence counts, and then those behind it. -/
theorem IsFirstOccurrence.countOccurrences_eq
    (isFirst : IsFirstOccurrence needle text before after) :
    countOccurrences needle text = countOccurrences needle after + 1 := by
  have splits := splitAtFirst?_eq_some_iff_isFirstOccurrence.mpr isFirst
  have someChars := toList_ne_nil nonempty
  rw [countOccurrences_eq_countFrom someChars, countOccurrences_eq_countFrom someChars,
    countFrom_eq someChars, splits]

/-- Something is counted exactly when there is an occurrence. -/
theorem countOccurrences_pos_iff :
    0 < countOccurrences needle text ↔ Occurs needle text := by
  rw [Nat.pos_iff_ne_zero, ne_eq, countOccurrences_eq_zero_iff nonempty, not_not]

omit nonempty in
/-- More text in front keeps occurrences apart. -/
theorem OccursApart.prepend
    {count : Nat}
    (apart : OccursApart needle count text)
    (earlier : String) :
    OccursApart needle count (earlier ++ text) := by
  cases apart with
  | none =>
      exact .none _
  | more before others =>
      have longer := OccursApart.more (earlier ++ before) others
      simpa [String.append_assoc] using longer

/-- No choice of occurrences has more than are counted: whatever lies behind the first chosen one
lies behind the first of all. -/
theorem occursApart_iff_le
    {count : Nat} :
    OccursApart needle count text ↔ count ≤ countOccurrences needle text := by
  induction count generalizing text with
  | zero =>
      exact ⟨fun _ => Nat.zero_le _, fun _ => .none text⟩
  | succ count inductionHypothesis =>
      constructor
      · intro apart
        cases apart with
        | @more _ chosen behind others =>
            have occurs : Occurs needle (chosen ++ needle ++ behind) := ⟨chosen, behind, rfl⟩
            obtain ⟨before, after, isFirst⟩ := occurs.exists_isFirstOccurrence
            obtain ⟨between, rfl⟩ := isFirst.exists_between
            have counted := inductionHypothesis.mp (others.prepend between)
            rw [isFirst.countOccurrences_eq nonempty]
            exact Nat.succ_le_succ counted
      · intro counts
        have occurs : Occurs needle text :=
          (countOccurrences_pos_iff nonempty).mp (Nat.lt_of_lt_of_le (Nat.succ_pos count) counts)
        obtain ⟨before, after, isFirst⟩ := occurs.exists_isFirstOccurrence
        rw [isFirst.countOccurrences_eq nonempty] at counts
        rw [isFirst.shape]
        exact .more before (inductionHypothesis.mpr (Nat.le_of_succ_le_succ counts))

/-- Counting finds the greatest number of occurrences that do not overlap. -/
theorem isCount_iff
    {count : Nat} :
    IsCount needle text count ↔ count = countOccurrences needle text := by
  constructor
  · rintro ⟨attained, greatest⟩
    apply Nat.le_antisymm
    · exact (occursApart_iff_le nonempty).mp attained
    · exact greatest _ ((occursApart_iff_le nonempty).mpr (Nat.le_refl _))
  · rintro rfl
    exact ⟨(occursApart_iff_le nonempty).mpr (Nat.le_refl _),
      fun _ => (occursApart_iff_le nonempty).mp⟩

/-- There are several exactly when there is another one behind the first, and then there is one more
than behind the first. -/
theorem several_iff
    {count : Nat} :
    (1 < countOccurrences needle text ∧ count = countOccurrences needle text) ↔
      ∃ before after others,
        IsFirstOccurrence needle text before after ∧
          Occurs needle after ∧
          IsCount needle after others ∧
          count = others + 1 := by
  constructor
  · rintro ⟨several, rfl⟩
    have occurs : Occurs needle text :=
      (countOccurrences_pos_iff nonempty).mp (Nat.lt_trans Nat.zero_lt_one several)
    obtain ⟨before, after, isFirst⟩ := occurs.exists_isFirstOccurrence
    have counted := isFirst.countOccurrences_eq nonempty
    rw [counted] at several
    have again : Occurs needle after :=
      (countOccurrences_pos_iff nonempty).mp (Nat.lt_of_succ_lt_succ several)
    exact ⟨before, after, _, isFirst, again, (isCount_iff nonempty).mpr rfl, counted⟩
  · rintro ⟨before, after, others, isFirst, again, isCount, rfl⟩
    have counted := isFirst.countOccurrences_eq nonempty
    rw [(isCount_iff nonempty).mp isCount, counted]
    exact ⟨Nat.succ_lt_succ ((countOccurrences_pos_iff nonempty).mpr again), rfl⟩

end Counting

end Tablewright.Text
