import Tablewright.Proofs.Text.Joined

/-!
# Lines of source code

The generated language ends a line at a line feed, at a carriage return, or at both in a row. Lines
that are joined by line feeds are found again in the joined text exactly when none of them holds an
end of a line.
-/

namespace Tablewright.Text

/-- The first line of source code, and the lines after it. -/
def linesFrom : List Char → List Char × List (List Char)
  | [] => ([], [])
  | '\r' :: '\n' :: rest =>
      let (first, others) := linesFrom rest
      ([], first :: others)
  | c :: rest =>
      let (first, others) := linesFrom rest
      if c = '\n' ∨ c = '\r' then ([], first :: others) else (c :: first, others)

/-- The lines of source code. What follows the last end of a line is a line too. -/
def sourceLines
    (code : List Char) : List (List Char) :=
  (linesFrom code).1 :: (linesFrom code).2

/-! ## Texts on one line -/

/-- No line ends in the text. -/
structure IsOneLine
    (chars : List Char) : Prop where
  noLineFeed : '\n' ∉ chars
  noReturn : '\r' ∉ chars

namespace IsOneLine

variable {chars others : List Char}

theorem iff_forall :
    IsOneLine chars ↔ ∀ c ∈ chars, c ≠ '\n' ∧ c ≠ '\r' := by
  constructor
  · rintro ⟨noLineFeed, noReturn⟩ c member
    exact ⟨fun isLineFeed => noLineFeed (isLineFeed ▸ member),
      fun isReturn => noReturn (isReturn ▸ member)⟩
  · intro plain
    exact ⟨fun member => (plain _ member).1 rfl, fun member => (plain _ member).2 rfl⟩

instance
    (chars : List Char) :
    Decidable (IsOneLine chars) :=
  decidable_of_iff (chars.all fun c => c != '\n' && c != '\r') (by simp [iff_forall])

theorem nil :
    IsOneLine [] :=
  ⟨List.not_mem_nil, List.not_mem_nil⟩

theorem cons_iff
    {c : Char} :
    IsOneLine (c :: chars) ↔ (c ≠ '\n' ∧ c ≠ '\r') ∧ IsOneLine chars := by
  rw [iff_forall, iff_forall, List.forall_mem_cons]

theorem append_iff :
    IsOneLine (chars ++ others) ↔ IsOneLine chars ∧ IsOneLine others := by
  rw [iff_forall, iff_forall, iff_forall, List.forall_mem_append]

/-! ## Lines found again -/

/-- A line with a line feed behind it is the first line. -/
theorem linesFrom_append_lineFeed
    (oneLine : IsOneLine chars)
    (rest : List Char) :
    linesFrom (chars ++ '\n' :: rest) = (chars, sourceLines rest) := by
  induction chars with
  | nil =>
      simp [linesFrom, sourceLines]
  | cons c chars inductionHypothesis =>
      obtain ⟨⟨noLineFeed, noReturn⟩, restOneLine⟩ := cons_iff.mp oneLine
      simp [linesFrom, noLineFeed, noReturn, inductionHypothesis restOneLine]

/-- A line alone is the only line. -/
theorem linesFrom_eq
    (oneLine : IsOneLine chars) :
    linesFrom chars = (chars, []) := by
  induction chars with
  | nil =>
      rfl
  | cons c chars inductionHypothesis =>
      obtain ⟨⟨noLineFeed, noReturn⟩, restOneLine⟩ := cons_iff.mp oneLine
      simp [linesFrom, noLineFeed, noReturn, inductionHypothesis restOneLine]

end IsOneLine

/-- Lines that are joined are the lines of what they are joined to. -/
theorem sourceLines_intercalate
    {lines : List (List Char)}
    (nonempty : lines ≠ [])
    (oneLine : ∀ line ∈ lines, IsOneLine line) :
    sourceLines (['\n'].intercalate lines) = lines := by
  induction lines with
  | nil =>
      exact (nonempty rfl).elim
  | cons line lines inductionHypothesis =>
      obtain ⟨first, others⟩ := List.forall_mem_cons.mp oneLine
      cases lines with
      | nil =>
          rw [List.intercalate_singleton, sourceLines, first.linesFrom_eq]
      | cons next lines =>
          rw [List.intercalate_cons_cons, List.append_assoc, List.singleton_append, sourceLines,
            first.linesFrom_append_lineFeed, inductionHypothesis (List.cons_ne_nil next lines) others]

theorem isOneLine_linesFrom
    (code : List Char) :
    IsOneLine (linesFrom code).1 ∧ ∀ line ∈ (linesFrom code).2, IsOneLine line := by
  fun_induction linesFrom code with
  | case1 =>
      exact ⟨.nil, by simp⟩
  | case2 rest first others shape inductionHypothesis =>
      rw [shape] at inductionHypothesis
      exact ⟨.nil, List.forall_mem_cons.mpr inductionHypothesis⟩
  | case3 c rest notPair first others shape ends inductionHypothesis =>
      rw [shape] at inductionHypothesis
      exact ⟨.nil, List.forall_mem_cons.mpr inductionHypothesis⟩
  | case4 c rest notPair first others shape within inductionHypothesis =>
      rw [shape] at inductionHypothesis
      exact ⟨IsOneLine.cons_iff.mpr ⟨not_or.mp within, inductionHypothesis.1⟩,
        inductionHypothesis.2⟩

/-- No line of source code holds an end of a line. -/
theorem isOneLine_of_mem_sourceLines
    {code line : List Char}
    (member : line ∈ sourceLines code) :
    IsOneLine line :=
  List.forall_mem_cons.mpr (isOneLine_linesFrom code) line member

end Tablewright.Text
