import Tablewright.Proofs.Naming.Snake

/-!
# Letters of snake case

The steps of snake case add and take away low lines and nothing else. So whatever can be said of a
name without its low lines can be said of its snake case. How many characters a character has in
small letters does not depend on what stands around it, so they can be counted in the name, and this
tells names of different length apart.
-/

namespace Tablewright.Naming

open Text (lowerChar lowerAt lowerChars)

/-! ## Low lines -/

/-- The characters of a text without its low lines. -/
def letters
    (chars : List Char) : List Char :=
  chars.filter (· ≠ '_')

theorem mem_letters_iff
    {c : Char}
    (noLowLine : c ≠ '_')
    {chars : List Char} :
    c ∈ letters chars ↔ c ∈ chars := by
  simp [letters, noLowLine]

theorem letters_cons
    (c : Char)
    (rest : List Char) :
    letters (c :: rest) = if c = '_' then letters rest else c :: letters rest := by
  by_cases isLowLine : c = '_' <;> simp [letters, isLowLine]

theorem letters_separateWords
    (insideWord : Bool)
    (chars : List Char) :
    letters (separateWords insideWord chars) = letters chars := by
  fun_induction separateWords insideWord chars with
  | case1 =>
      rfl
  | case2 insideWord c rest passed inductionHypothesis =>
      rw [letters_cons, letters_cons, inductionHypothesis]
  | case3 insideWord c notPassed word =>
      rfl
  | case4 insideWord c notPassed u more word inductionHypothesis =>
      simp [letters_cons, inductionHypothesis]
  | case5 insideWord c rest notPassed noWord inductionHypothesis =>
      rw [letters_cons, letters_cons, inductionHypothesis]

theorem letters_mergeLowLines
    (chars : List Char) :
    letters (mergeLowLines chars) = letters chars := by
  fun_induction mergeLowLines chars with
  | case1 =>
      rfl
  | case2 c rest merged inductionHypothesis =>
      obtain ⟨isLowLine, -⟩ := Bool.and_eq_true_iff.mp merged
      rw [inductionHypothesis, letters_cons, if_pos (beq_iff_eq.mp isLowLine)]
  | case3 c rest kept inductionHypothesis =>
      rw [letters_cons, letters_cons, inductionHypothesis]

theorem letters_separateCapitals
    (chars : List Char) :
    letters (separateCapitals chars) = letters chars := by
  fun_induction separateCapitals chars with
  | case1 =>
      rfl
  | case2 c rest separated inductionHypothesis =>
      simp [letters_cons, inductionHypothesis]
  | case3 c rest kept inductionHypothesis =>
      rw [letters_cons, letters_cons, inductionHypothesis]

/-- Snake case is a text in small letters that differs from the name in low lines only. -/
theorem exists_snakeChars
    (chars : List Char) :
    ∃ separated, snakeChars chars = lowerChars separated ∧ letters separated = letters chars :=
  ⟨_, rfl, by rw [letters_separateCapitals, letters_mergeLowLines, letters_separateWords]⟩

/-! ## Small letters -/

/-- The number of characters other than low lines that a text has in small letters. -/
def letterCount
    (chars : List Char) : Nat :=
  (chars.flatMap lowerChar).countP (· ≠ '_')

theorem letterCount_cons
    (c : Char)
    (rest : List Char) :
    letterCount (c :: rest) = (lowerChar c).countP (· ≠ '_') + letterCount rest := by
  simp [letterCount]

/-- A low line is its own small form, so it does not count. -/
theorem letterCount_letters
    (chars : List Char) :
    letterCount (letters chars) = letterCount chars := by
  have lowLine : (lowerChar '_').countP (· ≠ '_') = 0 := by
    decide +kernel
  induction chars with
  | nil =>
      rfl
  | cons c rest inductionHypothesis =>
      rw [letters_cons, letterCount_cons]
      split
      · next isLowLine =>
          rw [isLowLine, lowLine, Nat.zero_add, inductionHypothesis]
      · rw [letterCount_cons, inductionHypothesis]

/-- A sigma counts for one, whether it ends a word or not. -/
theorem countP_lowerAt
    (afterCased : Bool)
    (c : Char)
    (rest : List Char) :
    (lowerAt afterCased c rest).countP (· ≠ '_') = (lowerChar c).countP (· ≠ '_') := by
  have sigma : (lowerChar Text.capitalSigma).countP (· ≠ '_') = 1 := by
    decide +kernel
  unfold lowerAt
  split
  · next isSigma =>
      rw [isSigma, sigma]
      split <;> rfl
  · rfl

theorem countP_lowerChars
    (chars : List Char) :
    (lowerChars chars).countP (· ≠ '_') = letterCount chars := by
  refine Text.lowerChars_induction
    (p := fun chars small => small.countP (· ≠ '_') = letterCount chars) rfl ?_ chars
  intro afterCased c rest small inductionHypothesis
  rw [List.countP_append, countP_lowerAt, inductionHypothesis, letterCount_cons]

/-- The characters of snake case other than low lines can be counted in the name. -/
theorem countP_snakeChars
    (chars : List Char) :
    (snakeChars chars).countP (· ≠ '_') = letterCount chars := by
  obtain ⟨separated, isSnake, sameLetters⟩ := exists_snakeChars chars
  rw [isSnake, countP_lowerChars, ← letterCount_letters, sameLetters, letterCount_letters]

/-! ## Singulars and plurals -/

/-- No text makes the snake case of a plural that of its singular. -/
theorem snakeChars_ne_append_s
    (before chars : List Char) :
    snakeChars chars ≠ before ++ snakeChars (chars ++ ['s']) := by
  intro same
  have oneMore : letterCount (chars ++ ['s']) = letterCount chars + 1 := by
    have last : (lowerChar 's').countP (· ≠ '_') = 1 := by
      decide +kernel
    rw [letterCount, List.flatMap_append, List.countP_append, List.flatMap_singleton, last]
    rfl
  have sameCount := congrArg (List.countP (· ≠ '_')) same
  rw [List.countP_append, countP_snakeChars, countP_snakeChars, oneMore] at sameCount
  omega

/-- Nor does a text make the plural the singular as they are. -/
theorem ne_append_s
    (before chars : List Char) :
    chars ≠ before ++ (chars ++ ['s']) := by
  intro same
  have sameLength := congrArg List.length same
  simp only [List.length_append, List.length_singleton] at sameLength
  omega

end Tablewright.Naming
