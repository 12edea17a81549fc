import Tablewright.Schema.Lexeme

/-!
# White space and comments

What stands between two symbols of a text and is not read. However it is chosen, all that is seen of
it is whether a line ends in it.
-/

namespace Tablewright.Schema

/-- Whether the character is white space, a line break included. -/
def isWhite
    (c : Char) : Bool :=
  isSpace c || isLineBreak c

/-- A character of white space, or a comment. -/
inductive Trivia where
  | white
      (c : Char)
      (isWhite : isWhite c = true)
  /-- A comment up to the end of its line. -/
  | lineComment
      (text : List Char)
      (isInLine : ∀ c ∈ text, isLineBreak c = false)
      (last : Char)
      (isLast : isLineBreak last = true)
  | blockComment
      (text : List Char)
      (isOpen : ¬ ['*', '/'] <:+: text)

namespace Trivia

/-- How it is written. -/
def chars : Trivia → List Char
  | .white c _ => [c]
  | .lineComment text _ last _ => '/' :: '/' :: (text ++ [last])
  | .blockComment text _ => '/' :: '*' :: (text ++ ['*', '/'])

/-- Whether a line ends within it. -/
def breaksLine : Trivia → Bool
  | .white c _ => isLineBreak c
  | .lineComment .. => true
  | .blockComment text _ => text.any isLineBreak

def space : Trivia :=
  .white ' ' (by decide)

def newLine : Trivia :=
  .white '\n' (by decide)

end Trivia

/-- White space is no beginning of a comment. -/
theorem ne_slash_of_isWhite
    {c : Char}
    (white : isWhite c = true) :
    c ≠ '/' := by
  rintro rfl
  revert white
  decide

/-- White space is passed over. -/
theorem skip_white
    {c : Char}
    (white : isWhite c = true)
    (lineBreak : Bool)
    (rest : List Char) :
    skip lineBreak .spaces (c :: rest) =
      skip (lineBreak || isLineBreak c) .spaces rest := by
  have notSlash := ne_slash_of_isWhite white
  cases breaks : isLineBreak c with
  | true =>
      simp [skip, breaks, notSlash]
  | false =>
      have separates : isSpace c = true := by
        simpa [isWhite, breaks] using white
      simp [skip, breaks, separates, notSlash]

/-- A comment up to the end of its line is passed over together with that end. -/
theorem skip_lineComment
    {text : List Char}
    (isInLine : ∀ c ∈ text, isLineBreak c = false)
    {last : Char}
    (isLast : isLineBreak last = true)
    (lineBreak : Bool)
    (rest : List Char) :
    skip lineBreak .lineComment (text ++ last :: rest) = skip true .spaces rest := by
  induction text with
  | nil =>
      simp [skip, isLast]
  | cons c text inductionHypothesis =>
      have goesOn : isLineBreak c = false := isInLine c List.mem_cons_self
      have others :=
        inductionHypothesis fun other member => isInLine other (List.mem_cons_of_mem _ member)
      simp [skip, goesOn, others]

/-- A comment is passed over up to where it is closed. -/
theorem skip_blockComment
    {text : List Char}
    (isOpen : ¬ ['*', '/'] <:+: text)
    (lineBreak : Bool)
    (rest : List Char) :
    skip lineBreak .blockComment (text ++ '*' :: '/' :: rest) =
      skip (lineBreak || text.any isLineBreak) .spaces rest := by
  induction text generalizing lineBreak with
  | nil =>
      simp [skip]
  | cons c text inductionHypothesis =>
      have others :=
        inductionHypothesis
          (fun closes => isOpen (closes.trans (List.suffix_cons c text).isInfix))
          (lineBreak || isLineBreak c)
      -- What the comment has of its own cannot close it, even with the first sign of the end.
      have goesOn :
          ∀ more, c = '*' → text ++ '*' :: '/' :: rest = '/' :: more → False := by
        rintro more rfl shape
        cases text with
        | nil =>
            cases shape
        | cons other text =>
            cases shape
            exact isOpen ⟨[], text, rfl⟩
      rw [List.cons_append, skip, others, List.any_cons, Bool.or_assoc]
      exact goesOn

/-- White space and comments are passed over, whatever they are. -/
theorem skip_trivia
    (trivia : Trivia)
    (lineBreak : Bool)
    (rest : List Char) :
    skip lineBreak .spaces (trivia.chars ++ rest) =
      skip (lineBreak || trivia.breaksLine) .spaces rest := by
  cases trivia with
  | white c white =>
      exact skip_white white lineBreak rest
  | lineComment text isInLine last isLast =>
      have passed := skip_lineComment isInLine isLast lineBreak rest
      simpa [Trivia.chars, Trivia.breaksLine, skip] using passed
  | blockComment text isOpen =>
      have passed := skip_blockComment isOpen lineBreak rest
      simpa [Trivia.chars, Trivia.breaksLine, skip] using passed

/-- All white space and comments before a symbol are passed over. -/
theorem skip_flatMap_chars
    (trivia : List Trivia)
    (lineBreak : Bool)
    (rest : List Char) :
    skip lineBreak .spaces (trivia.flatMap Trivia.chars ++ rest) =
      skip (lineBreak || trivia.any Trivia.breaksLine) .spaces rest := by
  induction trivia generalizing lineBreak with
  | nil =>
      simp
  | cons first others inductionHypothesis =>
      rw [List.flatMap_cons, List.append_assoc, skip_trivia, inductionHypothesis, List.any_cons,
        Bool.or_assoc]

/-- Whether the character begins white space or a comment; a slash between symbols does. -/
def beginsTrivia
    (c : Char) : Bool :=
  isWhite c || c == '/'

/-- White space and comments begin as such. -/
theorem Trivia.exists_chars_eq_cons
    (trivia : Trivia) :
    ∃ c rest, trivia.chars = c :: rest ∧ beginsTrivia c = true := by
  cases trivia with
  | white c white =>
      exact ⟨c, [], rfl, by simp [beginsTrivia, white]⟩
  | lineComment text isInLine last isLast =>
      exact ⟨'/', _, rfl, rfl⟩
  | blockComment text isOpen =>
      exact ⟨'/', _, rfl, rfl⟩

/-- What begins neither white space nor a comment is not passed over. -/
theorem skip_of_not_beginsTrivia
    {c : Char}
    (isOther : beginsTrivia c = false)
    (lineBreak : Bool)
    (rest : List Char) :
    skip lineBreak .spaces (c :: rest) = ⟨lineBreak, false, c :: rest⟩ := by
  obtain ⟨notWhite, notSlash⟩ := Bool.or_eq_false_iff.mp isOther
  obtain ⟨notSpace, notLineBreak⟩ := Bool.or_eq_false_iff.mp notWhite
  simp [skip, notSpace, notLineBreak, ne_of_beq_false notSlash]

/-- What begins white space or a comment is no part of a name. -/
theorem isNamePart_eq_false_of_beginsTrivia
    {c : Char}
    (begins : beginsTrivia c = true) :
    isNamePart c = false := by
  rcases Bool.or_eq_true_iff.mp begins with white | isSlash
  · rcases Bool.or_eq_true_iff.mp white with separates | breaks
    · simp [isNamePart, separates]
    · simp [isNamePart, breaks]
  · rw [eq_of_beq isSlash]
    decide

end Tablewright.Schema
