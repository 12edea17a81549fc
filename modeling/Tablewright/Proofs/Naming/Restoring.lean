import Mathlib.Data.List.Chain
import Tablewright.Proofs.Naming.Snake

/-!
# Names that snake case restores

Pascal case takes the low lines out of a name and marks the beginnings of its segments by capital
letters. Snake case puts a low line back before each segment, unless the capital letter there follows
another one and begins no word. So only a single letter can run into the segment after it, and a name
all of whose segments are longer is restored.
-/

namespace Tablewright.Naming

/-- Among small letters and digits snake case puts no low line, and behind them it puts one if a
capital letter follows. -/
theorem spaced_append_of_isSmallOrDigit
    {small : List Char}
    (plain : ∀ c ∈ small, isSmallOrDigit c = true)
    (nonempty : small ≠ [])
    (chars : List Char) :
    spaced (small ++ chars) =
      small ++ if startsCapital chars then '_' :: spaced chars else spaced chars := by
  induction small with
  | nil =>
      exact (nonempty rfl).elim
  | cons c small inductionHypothesis =>
      obtain ⟨first, others⟩ := List.forall_mem_cons.mp plain
      cases small with
      | nil =>
          rw [List.singleton_append, spaced, first, Bool.true_or, Bool.and_true]
          split <;> rfl
      | cons next small =>
          have noCapital : startsCapital (next :: small ++ chars) = false :=
            isCapital_eq_false (others next List.mem_cons_self)
          rw [List.cons_append, spaced, noCapital,
            inductionHypothesis others (List.cons_ne_nil next small)]
          rfl

/-- Snake case begins as the text does. -/
theorem head?_spaced
    (chars : List Char) :
    (spaced chars).head? = chars.head? := by
  cases chars with
  | nil =>
      rfl
  | cons c rest =>
      rw [spaced]
      split <;> rfl

namespace Segment

variable (segment : Segment)

/-- A segment that holds more than one character. -/
def IsLong : Prop :=
  segment.rest ≠ []

/-- Whether snake case finds the boundary between two segments: the first one ends in a small letter
or digit, or the second one begins with a word. -/
def IsApartFrom
    (segment next : Segment) : Prop :=
  segment.IsLong ∨ startsWord next.capitalized = true

theorem toLower_capital :
    segment.capital.toLower = segment.first := by
  have known {c : Char} (early : c.toNat < 128) :
      isSmall c = true → (Char.ofNat (c.toNat - 32)).toLower = c :=
    Text.of_ascii_table early (by decide +kernel)
  exact known segment.first_toNat_lt segment.first_isSmall

/-- In small letters a segment is as it was before Pascal case. -/
theorem map_toLower_capitalized :
    segment.capitalized.map Char.toLower = segment.chars := by
  have others : segment.rest.map Char.toLower = segment.rest.map id :=
    List.map_congr_left fun c member =>
      toLower_of_isSmallOrDigit (segment.rest_isSmallOrDigit c member)
  rw [capitalized, List.map_cons, segment.toLower_capital, others, List.map_id, chars]

/-- Behind a long segment snake case puts a low line if a capital letter follows. -/
theorem spaced_append_of_isLong
    (long : segment.IsLong)
    (chars : List Char) :
    spaced (segment.capitalized ++ chars) =
      segment.capitalized ++ if startsCapital chars then '_' :: spaced chars else spaced chars := by
  have noCapital : startsCapital (segment.rest ++ chars) = false := by
    cases rest : segment.rest with
    | nil =>
        exact (long rest).elim
    | cons c more =>
        exact isCapital_eq_false (segment.rest_isSmallOrDigit c (by simp [rest]))
  rw [capitalized, List.cons_append, spaced, noCapital,
    spaced_append_of_isSmallOrDigit segment.rest_isSmallOrDigit long]
  rfl

/-- Behind a single letter snake case puts a low line only if a word follows. -/
theorem spaced_append_of_single
    (single : segment.rest = [])
    (chars : List Char) :
    spaced (segment.capitalized ++ chars) =
      segment.capitalized ++ if startsWord chars then '_' :: spaced chars else spaced chars := by
  have noPlain : isSmallOrDigit segment.capital = false :=
    isSmallOrDigit_eq_false segment.isCapital_capital
  rw [capitalized, single, List.singleton_append, spaced, noPlain, Bool.false_or]
  cases word : startsWord chars with
  | false =>
      simp
  | true =>
      simp [startsCapital_of_startsWord word]

/-- In a segment alone snake case puts no low line. -/
theorem spaced_capitalized :
    spaced segment.capitalized = segment.capitalized := by
  rw [← List.append_nil segment.capitalized]
  by_cases single : segment.rest = []
  · exact segment.spaced_append_of_single single []
  · exact segment.spaced_append_of_isLong single []

end Segment

namespace SegmentedName

variable (name : SegmentedName)

/-- Whether snake case finds all boundaries of a name. -/
def IsSpacedOut : Prop :=
  name.segments.IsChain Segment.IsApartFrom

theorem flatMap_capitalized :
    name.segments.flatMap Segment.capitalized =
      name.first.capital :: (name.first.rest ++ name.others.flatMap Segment.capitalized) :=
  rfl

/-- A name begins with a word in Pascal case if its first segment does. -/
theorem startsWord_flatMap_capitalized :
    startsWord (name.segments.flatMap Segment.capitalized) =
      startsWord name.first.capitalized := by
  rw [name.flatMap_capitalized, Segment.capitalized]
  cases rest : name.first.rest with
  | cons c more =>
      rfl
  | nil =>
      cases others : name.others with
      | nil =>
          rfl
      | cons next others =>
          have noSmall : isSmall next.capital = false := by
            rw [← Bool.not_eq_true]
            intro small
            have plain := isSmallOrDigit_of_isSmall small
            rw [isSmallOrDigit_eq_false next.isCapital_capital] at plain
            cases plain
          simp [Segment.capitalized, startsWord, noSmall]

/-- Behind a segment that is apart from the name after it snake case puts a low line. -/
theorem spaced_append_of_isApartFrom
    {segment : Segment}
    (apart : segment.IsApartFrom name.first) :
    spaced (segment.capitalized ++ name.segments.flatMap Segment.capitalized) =
      segment.capitalized ++ '_' :: spaced (name.segments.flatMap Segment.capitalized) := by
  have atCapital : startsCapital (name.segments.flatMap Segment.capitalized) = true :=
    name.first.isCapital_capital
  by_cases single : segment.rest = []
  · have word := apart.resolve_left (fun long => long single)
    rw [segment.spaced_append_of_single single, name.startsWord_flatMap_capitalized, if_pos word]
  · rw [segment.spaced_append_of_isLong single, if_pos atCapital]

/-- Behind another segment snake case puts nothing. -/
theorem spaced_append_of_not_isApartFrom
    {segment : Segment}
    (close : ¬ segment.IsApartFrom name.first) :
    spaced (segment.capitalized ++ name.segments.flatMap Segment.capitalized) =
      segment.capitalized ++ spaced (name.segments.flatMap Segment.capitalized) := by
  obtain ⟨short, noWord⟩ := not_or.mp close
  have single : segment.rest = [] :=
    not_not.mp short
  rw [segment.spaced_append_of_single single, name.startsWord_flatMap_capitalized, if_neg noWord]

/-- What snake case makes of the segments in Pascal case does not begin with a low line. -/
theorem map_toLower_spaced_ne_low_line_cons
    (rest : List Char) :
    (spaced (name.segments.flatMap Segment.capitalized)).map Char.toLower ≠ '_' :: rest := by
  intro same
  have sameFirst := congrArg List.head? same
  rw [List.head?_map, head?_spaced, name.flatMap_capitalized] at sameFirst
  have isLowLine : name.first.first = '_' := by
    simpa [name.first.toLower_capital] using sameFirst
  apply name.first.low_line_not_mem_chars
  rw [← isLowLine]
  exact List.mem_cons_self

/-- Snake case of the segments in Pascal case gives the name back exactly when it finds all
boundaries. -/
theorem map_toLower_spaced_iff :
    (spaced (name.segments.flatMap Segment.capitalized)).map Char.toLower = name.chars ↔
      name.IsSpacedOut := by
  obtain ⟨first, others⟩ := name
  induction others generalizing first with
  | nil =>
      simp [segments, chars, List.intercalate, IsSpacedOut, first.spaced_capitalized,
        first.map_toLower_capitalized]
  | cons next others inductionHypothesis =>
      have segmentsShape :
          (segments ⟨first, next :: others⟩).flatMap Segment.capitalized =
            first.capitalized ++ (segments ⟨next, others⟩).flatMap Segment.capitalized :=
        List.flatMap_cons
      have spacedOutIff :
          IsSpacedOut ⟨first, next :: others⟩ ↔
            first.IsApartFrom next ∧ IsSpacedOut ⟨next, others⟩ :=
        List.isChain_cons_cons
      rw [segmentsShape, chars_cons, spacedOutIff, ← inductionHypothesis next]
      by_cases apart : first.IsApartFrom next
      · rw [spaced_append_of_isApartFrom ⟨next, others⟩ apart, List.map_append,
          first.map_toLower_capitalized]
        simp [apart]
      · rw [spaced_append_of_not_isApartFrom ⟨next, others⟩ apart, List.map_append,
          first.map_toLower_capitalized, List.append_cancel_left_eq]
        simp [apart, map_toLower_spaced_ne_low_line_cons]

end SegmentedName

/-- Snake case undoes Pascal case exactly for names whose boundaries it finds. -/
theorem snake_pascal_eq_iff
    (name : SegmentedName) :
    snake (pascal name.text) = name.text ↔ name.IsSpacedOut := by
  have plain : ∀ c ∈ name.segments.flatMap Segment.capitalized, IsLetterOrDigit c := by
    rw [← name.pascalChars_chars]
    exact name.isLetterOrDigit_of_mem_pascalChars
  rw [← name.map_toLower_spaced_iff, ← snakeChars_eq plain, ← name.pascalChars_chars,
    ← String.toList_inj]
  simp [snake, pascal, SegmentedName.text]

/-- Single letters run into each other. -/
example : snake (pascal "a_b_cd") = "ab_cd" := by
  decide +kernel

/-- Snake case undoes Pascal case for names whose segments are all longer than a letter. -/
theorem snake_pascal_of_isLong
    (name : SegmentedName)
    (long : ∀ segment ∈ name.segments, segment.IsLong) :
    snake (pascal name.text) = name.text := by
  rw [snake_pascal_eq_iff, SegmentedName.IsSpacedOut]
  apply List.Pairwise.isChain
  exact List.pairwise_of_forall_mem_list fun segment member next _ => Or.inl (long segment member)

/-- A digit before a boundary, a digit behind one, and a segment of two characters. -/
theorem snake_pascal_of_isLong_of_digits :
    ∃ name : SegmentedName,
      name.text = "user2_a1_bc" ∧
        (∀ segment ∈ name.segments, segment.IsLong) ∧
        snake (pascal name.text) = name.text := by
  let user : Segment :=
    ⟨'u', ['s', 'e', 'r', '2'], by decide, List.all_eq_true.mp (by decide)⟩
  let a1 : Segment :=
    ⟨'a', ['1'], by decide, List.all_eq_true.mp (by decide)⟩
  let bc : Segment :=
    ⟨'b', ['c'], by decide, List.all_eq_true.mp (by decide)⟩
  let name : SegmentedName := ⟨user, [a1, bc]⟩
  have long : ∀ segment ∈ name.segments, segment.IsLong := by
    simp [SegmentedName.segments, Segment.IsLong, name, user, a1, bc]
  exact ⟨name, by decide, long, snake_pascal_of_isLong name long⟩

end Tablewright.Naming
