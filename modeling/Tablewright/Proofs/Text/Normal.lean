import Tablewright.Text.Normal

/-!
# Names that begin in ASCII

No ASCII character is written with others, moves among marks or is composed with the character
before it. So a name in normal form begins as the name itself does, up to the last ASCII character
before others: only this one may be composed with what follows.
-/

namespace Tablewright.Text

/-- A character that the tables of normal forms say nothing about except as the first of a pair. -/
abbrev IsAscii
    (c : Char) : Prop :=
  c.toNat < 0x80

section Tables

variable {c : Char}

theorem not_contains_of_ascii
    (ascii : IsAscii c)
    {span : Span}
    (isBeyond : 0x80 ≤ span.first) :
    span.contains c = false := by
  unfold IsAscii at ascii
  have below : ¬ span.first ≤ c.toNat := by omega
  simp [Span.contains, below]

theorem decompose_of_ascii
    (ascii : IsAscii c) :
    decompose c = [c] := by
  have shiftsBeyond : ∀ shift ∈ decompositionShifts, 0x80 ≤ shift.first := by decide +kernel
  have rowsBeyond : ∀ row ∈ decompositionRows, 0x80 ≤ row.first := by decide +kernel
  have noSyllable : syllables.contains c = false := not_contains_of_ascii ascii (by decide)
  have noShift : decompositionShifts.findSome? (·.image? c) = none := by
    refine List.findSome?_eq_none_iff.mpr fun shift member => ?_
    have isBeyond := shiftsBeyond shift member
    unfold IsAscii at ascii
    have below : ¬ shift.first ≤ c.toNat := by omega
    simp [Shift.image?, below]
  have noRow : decompositionRows.findSome? (·.image? c) = none := by
    refine List.findSome?_eq_none_iff.mpr fun row member => ?_
    have isBeyond := rowsBeyond row member
    unfold IsAscii at ascii
    have below : ¬ row.first ≤ c.toNat := by omega
    rw [Row.image?, if_neg below]
  rw [decompose, noSyllable, noShift, noRow]
  rfl

theorem orderOf_of_ascii
    (ascii : IsAscii c) :
    orderOf c = 0 := by
  have marksBeyond : ∀ marks ∈ combiningClasses, 0x80 ≤ marks.span.first := by decide +kernel
  have noMarks : combiningClasses.find? (·.span.contains c) = none := by
    refine List.find?_eq_none.mpr fun marks member => ?_
    rw [not_contains_of_ascii ascii (marksBeyond marks member)]
    exact Bool.false_ne_true
  rw [orderOf, noMarks]

/-- An ASCII character is not composed with the one before it. -/
theorem compose?_of_ascii
    (ascii : IsAscii c)
    (first : Char) :
    compose? first c = none := by
  have secondsBeyond : ∀ composition ∈ compositions, 0x80 ≤ composition.second := by
    decide +kernel
  have noSyllable : composeSyllable? first c = none := by
    have noVowel : vowels.contains c = false := not_contains_of_ascii ascii (by decide)
    have noTrailing : trailingConsonants.contains c = false :=
      not_contains_of_ascii ascii (by decide)
    simp [composeSyllable?, noVowel, noTrailing]
  have noPair :
      compositions.find? (fun composition =>
        composition.first = first.toNat ∧ composition.second = c.toNat) = none := by
    refine List.find?_eq_none.mpr fun composition member => ?_
    have isBeyond := secondsBeyond composition member
    unfold IsAscii at ascii
    have other : composition.second ≠ c.toNat := by omega
    simp [other]
  rw [compose?, noSyllable, noPair]
  rfl

theorem decompose_ne_nil
    (c : Char) :
    decompose c ≠ [] := by
  have imagesNotEmpty : ∀ row ∈ decompositionRows, ∀ image ∈ row.images, image ≠ [] := by
    decide +kernel
  unfold decompose
  split
  · simp [partsOfSyllable]
  · split
    · exact List.cons_ne_nil _ _
    · cases found : decompositionRows.findSome? (·.image? c) with
      | none =>
          exact List.cons_ne_nil _ _
      | some image =>
          obtain ⟨row, member, isImage⟩ := List.exists_of_findSome?_eq_some found
          unfold Row.image? at isImage
          split at isImage
          · obtain ⟨codes, isRow, rfl⟩ := Option.map_eq_some_iff.mp isImage
            have notEmpty := imagesNotEmpty row member codes (List.mem_of_getElem? isRow)
            simpa using notEmpty
          · cases isImage

theorem contains_iff
    {span : Span} :
    span.contains c = true ↔ span.first ≤ c.toNat ∧ c.toNat ≤ span.last := by
  simp [Span.contains]

theorem toNat_ofNat_of_le_syllables
    {code : Nat}
    (toLast : code ≤ syllables.last) :
    (Char.ofNat code).toNat = code := by
  have isValid : code.isValidChar := by
    left
    simp only [syllables] at toLast
    omega
  rw [Char.ofNat, dif_pos isValid]
  rfl

theorem not_isAscii_of_composeSyllable?
    {first second composed : Char}
    (composes : composeSyllable? first second = some composed) :
    ¬ IsAscii composed := by
  have isSyllable :
      ∃ code, syllables.first ≤ code ∧ code ≤ syllables.last ∧ Char.ofNat code = composed := by
    unfold composeSyllable? at composes
    split at composes
    · next parts =>
        rw [Bool.and_eq_true, contains_iff, contains_iff] at parts
        refine ⟨_, ?_, ?_, Option.some.inj composes⟩ <;>
          simp only [syllables, leadingConsonants, vowels, vowelCount, endingCount] at parts ⊢ <;>
          omega
    · split at composes
      · next parts =>
          rw [Bool.and_eq_true, Bool.and_eq_true, contains_iff, contains_iff,
            decide_eq_true_eq] at parts
          refine ⟨_, ?_, ?_, Option.some.inj composes⟩ <;>
            simp only [syllables, trailingConsonants, endingCount] at parts ⊢ <;>
            omega
      · cases composes
  obtain ⟨code, fromFirst, toLast, rfl⟩ := isSyllable
  unfold IsAscii
  rw [toNat_ofNat_of_le_syllables toLast]
  simp only [syllables] at fromFirst
  omega

/-- What a pair stands for is no ASCII character. -/
theorem not_isAscii_of_compose?
    {first second composed : Char}
    (composes : compose? first second = some composed) :
    ¬ IsAscii composed := by
  have resultsBeyond :
      ∀ composition ∈ compositions, 0x80 ≤ (Char.ofNat composition.result).toNat := by
    decide +kernel
  unfold compose? at composes
  split at composes
  · next isSyllable =>
      cases composes
      exact not_isAscii_of_composeSyllable? isSyllable
  · obtain ⟨composition, found, rfl⟩ := Option.map_eq_some_iff.mp composes
    exact Nat.not_lt.mpr (resultsBeyond composition (List.mem_of_find?_eq_some found))

end Tables

/-- A character of no class stays before marks. -/
theorem insertMark_of_orderOf
    {c : Char}
    (noClass : orderOf c = 0)
    (marks : List Char) :
    insertMark c marks = c :: marks := by
  cases marks with
  | nil => rfl
  | cons other rest => simp [insertMark, noClass]

theorem insertMark_ne_nil
    (c : Char)
    (marks : List Char) :
    insertMark c marks ≠ [] := by
  cases marks with
  | nil => exact List.cons_ne_nil _ _
  | cons other rest =>
      unfold insertMark
      split <;> exact List.cons_ne_nil _ _

/-- A character is composed with something, or it stays, and with it the marks that it has. -/
theorem length_lt_length_composeFrom
    (starter : Char)
    (marks : List Char)
    (last : Nat)
    (rest : List Char) :
    marks.length < (composeFrom starter marks last rest).length := by
  induction rest generalizing starter marks last with
  | nil =>
      simp [composeFrom]
  | cons c rest inductionHypothesis =>
      unfold composeFrom
      dsimp only
      split
      · exact inductionHypothesis _ _ _
      · split
        · simp only [List.cons_append, List.length_cons, List.length_append]
          omega
        · have longer := inductionHypothesis starter (marks ++ [c]) (orderOf c)
          simp only [List.length_append, List.length_singleton] at longer
          omega

/-- Only by itself an ASCII character comes out alone. -/
theorem eq_nil_of_composeFrom_eq_singleton
    {starter composed : Char}
    {marks rest : List Char}
    {last : Nat}
    (comesTo : composeFrom starter marks last rest = [composed])
    (ascii : IsAscii composed) :
    rest = [] := by
  induction rest generalizing starter marks last with
  | nil =>
      rfl
  | cons c rest inductionHypothesis =>
      exfalso
      unfold composeFrom at comesTo
      dsimp only at comesTo
      split at comesTo
      · next further composes =>
          have isRest := inductionHypothesis comesTo
          subst isRest
          cases comesTo
          split at composes
          · exact not_isAscii_of_compose? composes ascii
          · cases composes
      · split at comesTo
        · have longer := length_lt_length_composeFrom c [] 0 rest
          have lengths := congrArg List.length comesTo
          simp at lengths
          simp [lengths] at longer
        · have longer :=
            length_lt_length_composeFrom starter (marks ++ [c]) (orderOf c) rest
          rw [comesTo] at longer
          simp at longer

/-- Composing goes through ASCII characters one by one. -/
theorem composeFrom_ascii
    {front rest : List Char}
    {last : Char}
    (ascii : ∀ c ∈ front ++ [last], IsAscii c)
    (starter : Char) :
    composeFrom starter [] 0 (front ++ last :: rest) =
      starter :: (front ++ composeFrom last [] 0 rest) := by
  induction front generalizing starter with
  | nil =>
      have lastAscii := ascii last List.mem_cons_self
      simp [composeFrom, compose?_of_ascii lastAscii, orderOf_of_ascii lastAscii]
  | cons c front inductionHypothesis =>
      obtain ⟨firstAscii, restAscii⟩ := List.forall_mem_cons.mp ascii
      rw [List.cons_append, composeFrom]
      simp only [compose?_of_ascii firstAscii, ite_self, orderOf_of_ascii firstAscii, if_true,
        List.nil_append, List.cons_append]
      rw [inductionHypothesis restAscii c]

section Names

variable {front rest : List Char}
variable {last : Char}

theorem orderMarks_eq_nil_iff
    {chars : List Char} :
    orderMarks chars = [] ↔ chars = [] := by
  cases chars with
  | nil => exact iff_of_true rfl rfl
  | cons c chars => exact iff_of_false (insertMark_ne_nil _ _) (List.cons_ne_nil _ _)

/-- The characters of a name that begins in ASCII, decomposed and with their marks in order. -/
theorem orderMarks_decompose_ascii
    (ascii : ∀ c ∈ front, IsAscii c)
    (rest : List Char) :
    orderMarks ((front ++ rest).flatMap decompose) =
      front ++ orderMarks (rest.flatMap decompose) := by
  induction front with
  | nil =>
      rfl
  | cons c front inductionHypothesis =>
      obtain ⟨firstAscii, restAscii⟩ := List.forall_mem_cons.mp ascii
      rw [List.cons_append, List.flatMap_cons, decompose_of_ascii firstAscii,
        List.singleton_append, orderMarks, List.foldr_cons, ← orderMarks,
        inductionHypothesis restAscii, insertMark_of_orderOf (orderOf_of_ascii firstAscii),
        List.cons_append]

/-- A name that begins in ASCII is in normal form with this beginning, of which the last character
is composed with what follows. -/
theorem composeChars_ascii
    (ascii : ∀ c ∈ front ++ [last], IsAscii c)
    (rest : List Char) :
    composeChars (orderMarks ((front ++ last :: rest).flatMap decompose)) =
      front ++ composeFrom last [] 0 (orderMarks (rest.flatMap decompose)) := by
  have ordered := orderMarks_decompose_ascii ascii rest
  rw [List.append_assoc, List.singleton_append] at ordered
  rw [ordered, List.append_assoc, List.singleton_append]
  cases front with
  | nil =>
      rfl
  | cons c front =>
      rw [List.cons_append, composeChars]
      exact composeFrom_ascii (List.forall_mem_cons.mp ascii).2 c

/-- The normal form is composed of what the characters are written with, for names in ASCII too. -/
theorem toList_normalForm
    (name : String) :
    (normalForm name).toList =
      composeChars (orderMarks (name.toList.flatMap decompose)) := by
  unfold normalForm
  split
  · next isAscii =>
      have ascii : ∀ c ∈ name.toList, IsAscii c := by
        simpa [IsAscii] using isAscii
      rcases List.eq_nil_or_concat name.toList with isEmpty | ⟨front, last, isName⟩
      · rw [isEmpty]
        rfl
      · rw [List.concat_eq_append] at isName
        rw [isName] at ascii ⊢
        rw [composeChars_ascii ascii []]
        rfl
  · rw [String.toList_ofList]

variable {name : String}

/-- A name in normal form begins as the name does, up to the last of its first ASCII characters. -/
theorem exists_toList_normalForm
    (isName : name.toList = front ++ last :: rest)
    (ascii : ∀ c ∈ front ++ [last], IsAscii c) :
    ∃ next behind, (normalForm name).toList = front ++ next :: behind := by
  have longer := length_lt_length_composeFrom last [] 0 (orderMarks (rest.flatMap decompose))
  rw [toList_normalForm, isName, composeChars_ascii ascii]
  cases composed : composeFrom last [] 0 (orderMarks (rest.flatMap decompose)) with
  | nil =>
      rw [composed] at longer
      cases longer
  | cons next behind =>
      exact ⟨next, behind, rfl⟩

/-- Only an ASCII name itself has this name for its normal form, of those that begin with it. -/
theorem eq_nil_of_normalForm
    (isName : name.toList = front ++ last :: rest)
    (ascii : ∀ c ∈ front ++ [last], IsAscii c)
    (isForm : (normalForm name).toList = front ++ [last]) :
    rest = [] := by
  rw [toList_normalForm, isName, composeChars_ascii ascii, List.append_cancel_left_eq] at isForm
  have lastAscii : IsAscii last := ascii last (by simp)
  have noneBehind := eq_nil_of_composeFrom_eq_singleton isForm lastAscii
  have noneWritten : rest.flatMap decompose = [] := orderMarks_eq_nil_iff.mp noneBehind
  rw [List.flatMap_eq_nil_iff] at noneWritten
  exact List.eq_nil_iff_forall_not_mem.mpr fun c member =>
    decompose_ne_nil c (noneWritten c member)

end Names

end Tablewright.Text
