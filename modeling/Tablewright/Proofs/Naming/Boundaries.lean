import Tablewright.Proofs.Naming.Restoring

/-!
# Boundaries of segments

In Pascal case and in camel case the segments of a name stand side by side. A capital letter marks the
boundary before a segment and stands nowhere else, so the segments are found again, and names that are
the same in one of these styles are the same.
-/

namespace Tablewright.Naming

/-- What stands before the first capital letter, and the words that capital letters begin. -/
def splitAtCapitals : List Char → List Char × List (List Char)
  | [] => ([], [])
  | c :: rest =>
      let (first, others) := splitAtCapitals rest
      if isCapital c then ([], (c :: first) :: others) else (c :: first, others)

/-- Small letters and digits are split off nothing that follows them. -/
theorem splitAtCapitals_append
    {small : List Char}
    (plain : ∀ c ∈ small, isSmallOrDigit c = true)
    (chars : List Char) :
    splitAtCapitals (small ++ chars) =
      (small ++ (splitAtCapitals chars).1, (splitAtCapitals chars).2) := by
  induction small with
  | nil =>
      rfl
  | cons c small inductionHypothesis =>
      obtain ⟨first, others⟩ := List.forall_mem_cons.mp plain
      rw [List.cons_append, splitAtCapitals, inductionHypothesis others]
      simp [isCapital_eq_false first]

/-- Segments in Pascal case are found again. -/
theorem splitAtCapitals_flatMap
    (segments : List Segment) :
    splitAtCapitals (segments.flatMap Segment.capitalized) =
      ([], segments.map Segment.capitalized) := by
  induction segments with
  | nil =>
      rfl
  | cons segment segments inductionHypothesis =>
      rw [List.flatMap_cons, Segment.capitalized, List.cons_append, splitAtCapitals,
        splitAtCapitals_append segment.rest_isSmallOrDigit, inductionHypothesis]
      simp [segment.isCapital_capital, Segment.capitalized]

/-- Segments are the same if they are in Pascal case. -/
theorem map_chars_eq_of_capitalized
    {segments others : List Segment}
    (same : segments.map Segment.capitalized = others.map Segment.capitalized) :
    segments.map Segment.chars = others.map Segment.chars := by
  have small (list : List Segment) :
      (list.map Segment.capitalized).map (List.map Char.toLower) = list.map Segment.chars := by
    rw [List.map_map]
    exact List.map_congr_left fun segment _ => segment.map_toLower_capitalized
  rw [← small segments, ← small others, same]

/-! ## Where segments begin -/

/-- The position is that of a segment: as far from the beginning as the segments before it are
long. -/
def BeginsAt
    (segments : List Segment)
    (position : Nat) : Prop :=
  ∃ before segment after,
    segments = before ++ segment :: after ∧
      position = (before.flatMap Segment.chars).length

/-- A segment begins at the beginning, or where one does among the segments behind the first. -/
theorem beginsAt_cons_iff
    {segment : Segment}
    {segments : List Segment}
    {position : Nat} :
    BeginsAt (segment :: segments) position ↔
      position = 0 ∨
        ∃ further,
          BeginsAt segments further ∧ position = segment.chars.length + further := by
  constructor
  · rintro ⟨before, next, after, shape, rfl⟩
    cases before with
    | nil =>
        exact Or.inl rfl
    | cons first before =>
        cases shape
        exact Or.inr ⟨_, ⟨before, next, after, rfl, rfl⟩, by simp⟩
  · rintro (rfl | ⟨further, ⟨before, next, after, rfl, rfl⟩, rfl⟩)
    · exact ⟨[], segment, segments, rfl, rfl⟩
    · exact ⟨segment :: before, next, after, rfl, by simp⟩

/-- The capital letters of segments in Pascal case stand where a segment begins. -/
theorem isCapital_at_iff
    (segments : List Segment)
    (position : Nat) :
    (∃ c,
        (segments.flatMap Segment.capitalized)[position]? = some c ∧ isCapital c = true) ↔
      BeginsAt segments position := by
  induction segments generalizing position with
  | nil =>
      simp [BeginsAt]
  | cons segment segments inductionHypothesis =>
      have sameLength : segment.capitalized.length = segment.chars.length :=
        rfl
      rw [List.flatMap_cons, beginsAt_cons_iff]
      by_cases within : position < segment.capitalized.length
      · -- Inside the segment only its first letter is a capital.
        have noFurther :
            ¬ ∃ further,
                BeginsAt segments further ∧ position = segment.chars.length + further := by
          rintro ⟨further, -, rfl⟩
          omega
        rw [List.getElem?_append_left within, or_iff_left noFurther]
        cases position with
        | zero =>
            simp [Segment.capitalized, segment.isCapital_capital]
        | succ position =>
            refine iff_of_false ?_ (Nat.succ_ne_zero position)
            rintro ⟨c, found, capital⟩
            rw [Segment.capitalized, List.getElem?_cons_succ] at found
            have plain := segment.rest_isSmallOrDigit c (List.mem_of_getElem? found)
            rw [isCapital_eq_false plain] at capital
            cases capital
      · have behind : segment.capitalized.length ≤ position :=
          Nat.le_of_not_lt within
        have positive : 0 < segment.capitalized.length :=
          Nat.succ_pos _
        rw [List.getElem?_append_right behind, inductionHypothesis]
        constructor
        · intro begins
          exact Or.inr ⟨_, begins, by omega⟩
        · rintro (rfl | ⟨further, begins, rfl⟩)
          · omega
          · rwa [sameLength, Nat.add_sub_cancel_left]

/-! ## Names -/

namespace SegmentedName

/-- In camel case the first segment stands as it is, and the others follow in Pascal case. -/
theorem camelChars_chars
    (name : SegmentedName) :
    camelChars name.chars = name.first.chars ++ name.others.flatMap Segment.capitalized := by
  rw [camelChars, name.segmentsOf_chars]
  dsimp only
  rw [flatMap_capitalize_chars,
    lowerChars_of_isSmallOrDigit name.first.isSmallOrDigit_of_mem_chars]

/-- Names with the same segments are the same. -/
theorem chars_eq_of_segments
    {a b : SegmentedName}
    (same : a.segments.map Segment.chars = b.segments.map Segment.chars) :
    a.chars = b.chars := by
  rw [chars, chars, same]

/-- Pascal case keeps different names apart. -/
theorem pascalChars_inj
    {a b : SegmentedName}
    (same : pascalChars a.chars = pascalChars b.chars) :
    a.chars = b.chars := by
  rw [a.pascalChars_chars, b.pascalChars_chars] at same
  have sameWords := congrArg splitAtCapitals same
  rw [splitAtCapitals_flatMap, splitAtCapitals_flatMap, Prod.mk.injEq] at sameWords
  exact chars_eq_of_segments (map_chars_eq_of_capitalized sameWords.2)

/-- Camel case keeps different names apart. -/
theorem camelChars_inj
    {a b : SegmentedName}
    (same : camelChars a.chars = camelChars b.chars) :
    a.chars = b.chars := by
  have split (name : SegmentedName) :
      splitAtCapitals (camelChars name.chars) =
        (name.first.chars, name.others.map Segment.capitalized) := by
    rw [name.camelChars_chars,
      splitAtCapitals_append name.first.isSmallOrDigit_of_mem_chars, splitAtCapitals_flatMap,
      List.append_nil]
  have sameWords := congrArg splitAtCapitals same
  rw [split a, split b, Prod.mk.injEq] at sameWords
  obtain ⟨sameFirst, sameOthers⟩ := sameWords
  apply chars_eq_of_segments
  rw [segments, segments, List.map_cons, List.map_cons, sameFirst,
    map_chars_eq_of_capitalized sameOthers]

end SegmentedName

/-- Pascal case and camel case keep different names apart. In Pascal case there is no low line, and
the capital letters stand exactly where the segments begin. -/
theorem pascal_marks_segments
    (a b : SegmentedName) :
    (pascal a.text = pascal b.text ↔ a.text = b.text) ∧
      '_' ∉ (pascal a.text).toList ∧
      (∀ position,
        (∃ c, (pascal a.text).toList[position]? = some c ∧ isCapital c = true) ↔
          BeginsAt a.segments position) ∧
      (camel a.text = camel b.text ↔ a.text = b.text) := by
  have sameText : a.text = b.text ↔ a.chars = b.chars :=
    String.ofList_inj
  have pascalText : (pascal a.text).toList = pascalChars a.chars := by
    simp [pascal, SegmentedName.text]
  refine ⟨⟨?_, congrArg pascal⟩, ?_, ?_, ⟨?_, congrArg camel⟩⟩
  · intro same
    rw [← String.toList_inj] at same
    rw [sameText]
    exact SegmentedName.pascalChars_inj (by simpa [pascal, SegmentedName.text] using same)
  · rw [pascalText]
    intro lowLine
    have plain := a.isLetterOrDigit_of_mem_pascalChars '_' lowLine
    exact plain.ne (by decide) rfl
  · intro position
    rw [pascalText, a.pascalChars_chars]
    exact isCapital_at_iff a.segments position
  · intro same
    rw [← String.toList_inj] at same
    rw [sameText]
    exact SegmentedName.camelChars_inj (by simpa [camel, SegmentedName.text] using same)

/-- A boundary that has moved is seen. -/
example : pascal "ab_c" = "AbC" ∧ pascal "a_bc" = "ABc" := by
  decide +kernel

end Tablewright.Naming
