import Tablewright.Proofs.Text.Occurrence
import Tablewright.Text.Lines

/-!
# Occurrences in lines

What has no line end in it occurs in a text where it occurs in a line of the text. So occurrences are
counted line by line, and the first one is in the first line that has any. Reading a file leaves no
carriage return in a text, and leaves one without any as it is.
-/

namespace Tablewright.Text

theorem unifyLineEnds_of_not_mem
    {text : List Char}
    (free : '\r' ∉ text) :
    unifyLineEnds text = text := by
  fun_induction unifyLineEnds text with
  | case1 =>
      rfl
  | case2 rest inductionHypothesis =>
      simp at free
  | case3 rest notPair inductionHypothesis =>
      simp at free
  | case4 c rest notPair notReturn inductionHypothesis =>
      rw [inductionHypothesis (fun member => free (List.mem_cons_of_mem c member))]

theorem not_mem_unifyLineEnds
    (text : List Char) :
    '\r' ∉ unifyLineEnds text := by
  fun_induction unifyLineEnds text with
  | case1 =>
      simp
  | case2 rest inductionHypothesis =>
      simpa using inductionHypothesis
  | case3 rest notPair inductionHypothesis =>
      simpa using inductionHypothesis
  | case4 c rest notPair notReturn inductionHypothesis =>
      intro member
      rcases List.mem_cons.mp member with rfl | inRest
      · exact notReturn rfl
      · exact inductionHypothesis inRest

/-- The characters of lines, each of which is ended. -/
def lineChars
    (lines : List String) : List Char :=
  lines.flatMap fun line => line.toList ++ ['\n']

/-- Lines that are joined and ended are lines that are ended one by one. -/
theorem toList_intercalate_append
    {lines : List String}
    (nonempty : lines ≠ []) :
    (String.intercalate "\n" lines ++ "\n").toList = lineChars lines := by
  rw [String.toList_append, String.toList_intercalate]
  induction lines with
  | nil =>
      exact (nonempty rfl).elim
  | cons line lines inductionHypothesis =>
      cases lines with
      | nil =>
          simp [lineChars]
      | cons next lines =>
          have shape :
              ['\n'].intercalate ((line :: next :: lines).map String.toList) =
                line.toList ++ '\n' :: ['\n'].intercalate ((next :: lines).map String.toList) := by
            simp [List.intercalate]
          have others := inductionHypothesis (List.cons_ne_nil next lines)
          rw [show "\n".toList = ['\n'] from rfl] at others ⊢
          rw [shape, List.append_assoc, List.cons_append, others]
          simp [lineChars]

section Lines

variable {needle : List Char}

/-- What has no line end in it is at the beginning of a text if it is at the beginning of the first
line. -/
theorem isPrefixOf?_append_lineEnd
    (oneLine : '\n' ∉ needle)
    (line rest : List Char) :
    needle.isPrefixOf? (line ++ '\n' :: rest) =
      (needle.isPrefixOf? line).map (· ++ '\n' :: rest) := by
  induction line generalizing needle with
  | nil =>
      cases needle with
      | nil =>
          rfl
      | cons first others =>
          have differs : (first == '\n') = false := by
            rw [beq_eq_false_iff_ne]
            rintro rfl
            exact oneLine List.mem_cons_self
          simp [List.isPrefixOf?, differs]
  | cons c line inductionHypothesis =>
      cases needle with
      | nil =>
          rfl
      | cons first others =>
          have othersOneLine : '\n' ∉ others := fun member =>
            oneLine (List.mem_cons_of_mem first member)
          simp only [List.cons_append, List.isPrefixOf?]
          split
          · exact inductionHypothesis othersOneLine
          · rfl

private theorem isPrefixOf?_lineEnd
    (oneLine : '\n' ∉ needle)
    (nonempty : needle ≠ [])
    (rest : List Char) :
    needle.isPrefixOf? ('\n' :: rest) = none := by
  have atEnd := isPrefixOf?_append_lineEnd oneLine [] rest
  cases needle with
  | nil =>
      exact (nonempty rfl).elim
  | cons first others =>
      exact atEnd

/-- The first occurrence is in the first line, or else it is in the rest. -/
theorem splitAtFirst?_append_lineEnd
    (oneLine : '\n' ∉ needle)
    (nonempty : needle ≠ [])
    (line rest : List Char) :
    splitAtFirst? needle (line ++ '\n' :: rest) =
      match splitAtFirst? needle line with
      | some (before, after) => some (before, after ++ '\n' :: rest)
      | none =>
          (splitAtFirst? needle rest).map fun (before, after) => (line ++ '\n' :: before, after) := by
  induction line with
  | nil =>
      have noneInNothing : splitAtFirst? needle [] = none := by
        cases needle with
        | nil =>
            exact (nonempty rfl).elim
        | cons first others =>
            rfl
      rw [noneInNothing, List.nil_append, splitAtFirst?, isPrefixOf?_lineEnd oneLine nonempty]
      rfl
  | cons c line inductionHypothesis =>
      rw [List.cons_append, splitAtFirst?, splitAtFirst?, ← List.cons_append,
        isPrefixOf?_append_lineEnd oneLine, inductionHypothesis]
      cases needle.isPrefixOf? (c :: line) with
      | some after =>
          rfl
      | none =>
          cases splitAtFirst? needle line with
          | some parts =>
              rfl
          | none =>
              cases splitAtFirst? needle rest <;> rfl

/-- Occurrences are counted in the first line and in the rest. -/
theorem countFrom_append_lineEnd
    (oneLine : '\n' ∉ needle)
    (nonempty : needle ≠ [])
    (line rest : List Char)
    {skip : Nat}
    (inside : skip ≤ line.length) :
    countFrom needle skip (line ++ '\n' :: rest) =
      countFrom needle skip line + countFrom needle 0 rest := by
  induction line generalizing skip with
  | nil =>
      obtain rfl : skip = 0 := Nat.le_zero.mp inside
      have notHere : needle.isPrefixOf ('\n' :: rest) = false := by
        rw [← List.isSome_isPrefixOf?_eq_isPrefixOf, isPrefixOf?_lineEnd oneLine nonempty]
        rfl
      simp [countFrom, notHere]
  | cons c line inductionHypothesis =>
      cases skip with
      | succ skip =>
          exact inductionHypothesis (Nat.le_of_succ_le_succ inside)
      | zero =>
          -- What begins in the line ends in it too, since there is no line end in it.
          have same :
              needle.isPrefixOf (c :: (line ++ '\n' :: rest)) = needle.isPrefixOf (c :: line) := by
            rw [← List.isSome_isPrefixOf?_eq_isPrefixOf, ← List.isSome_isPrefixOf?_eq_isPrefixOf,
              ← List.cons_append, isPrefixOf?_append_lineEnd oneLine, Option.isSome_map]
          rw [List.cons_append, countFrom, countFrom, same]
          split
          · next here =>
              have fits : needle.length - 1 ≤ line.length := by
                have shorter := (List.isPrefixOf_iff_prefix.mp here).length_le
                rw [List.length_cons] at shorter
                omega
              rw [inductionHypothesis fits]
              omega
          · exact inductionHypothesis (Nat.zero_le _)

/-- How often something occurs in lines. -/
def countInLines
    (needle : List Char) : List String → Nat
  | [] => 0
  | line :: lines => countFrom needle 0 line.toList + countInLines needle lines

theorem countInLines_eq_zero_iff
    (nonempty : needle ≠ [])
    {lines : List String} :
    countInLines needle lines = 0 ↔
      ∀ line ∈ lines, splitAtFirst? needle line.toList = none := by
  induction lines with
  | nil =>
      simp [countInLines]
  | cons line lines inductionHypothesis =>
      rw [countInLines, Nat.add_eq_zero_iff, countFrom_eq_zero_iff nonempty,
        inductionHypothesis, List.forall_mem_cons]

/-- Occurrences in lines are counted line by line. -/
theorem countFrom_lineChars_append
    (oneLine : '\n' ∉ needle)
    (nonempty : needle ≠ [])
    (lines : List String)
    (rest : List Char) :
    countFrom needle 0 (lineChars lines ++ rest) =
      countInLines needle lines + countFrom needle 0 rest := by
  induction lines with
  | nil =>
      simp [lineChars, countInLines]
  | cons line lines inductionHypothesis =>
      have shape :
          lineChars (line :: lines) ++ rest = line.toList ++ '\n' :: (lineChars lines ++ rest) := by
        simp [lineChars]
      rw [shape, countFrom_append_lineEnd oneLine nonempty _ _ (Nat.zero_le _),
        inductionHypothesis, countInLines, Nat.add_assoc]

/-- Lines without an occurrence come before the first one. -/
theorem splitAtFirst?_lineChars_append
    (oneLine : '\n' ∉ needle)
    (nonempty : needle ≠ [])
    {lines : List String}
    (absent : ∀ line ∈ lines, splitAtFirst? needle line.toList = none)
    (rest : List Char) :
    splitAtFirst? needle (lineChars lines ++ rest) =
      (splitAtFirst? needle rest).map fun (before, after) => (lineChars lines ++ before, after) := by
  induction lines with
  | nil =>
      simp [lineChars]
  | cons line lines inductionHypothesis =>
      have shape :
          lineChars (line :: lines) ++ rest = line.toList ++ '\n' :: (lineChars lines ++ rest) := by
        simp [lineChars]
      rw [List.forall_mem_cons] at absent
      rw [shape, splitAtFirst?_append_lineEnd oneLine nonempty, absent.1,
        inductionHypothesis absent.2]
      cases splitAtFirst? needle rest <;> simp [lineChars]

/-- What is behind spaces and before nothing else is spaces if it is at the beginning too. -/
private theorem eq_space_of_append
    {after : List Char}
    {indent : Nat}
    (again : List.replicate (indent + 1) ' ' ++ needle = needle ++ after) :
    ∀ c ∈ needle, c = ' ' := by
  induction needle with
  | nil =>
      simp
  | cons first others inductionHypothesis =>
      have shifted :
          List.replicate (indent + 1) ' ' ++ first :: others =
            ' ' :: (List.replicate indent ' ' ++ first :: others) := rfl
      rw [shifted, List.cons_append, List.cons.injEq] at again
      obtain ⟨rfl, others_eq⟩ := again
      rw [List.forall_mem_cons]
      refine ⟨rfl, inductionHypothesis ?_⟩
      rw [← others_eq, List.replicate_succ', List.append_assoc]
      rfl

/-- What is not made of spaces occurs behind spaces only where they end. -/
theorem splitAtFirst?_indented
    {c : Char}
    (member : c ∈ needle)
    (noSpace : c ≠ ' ')
    (indent : Nat) :
    splitAtFirst? needle (List.replicate indent ' ' ++ needle) =
      some (List.replicate indent ' ', []) := by
  induction indent with
  | zero =>
      have here : needle.isPrefixOf? needle = some [] := by
        rw [isPrefixOf?_eq_some_iff_append, List.append_nil]
      cases needle with
      | nil =>
          cases member
      | cons first others =>
          rw [List.replicate_zero, List.nil_append, splitAtFirst?, here]
  | succ indent inductionHypothesis =>
      have notHere :
          needle.isPrefixOf? (' ' :: (List.replicate indent ' ' ++ needle)) = none := by
        rw [Option.eq_none_iff_forall_ne_some]
        intro after here
        exact noSpace (eq_space_of_append (isPrefixOf?_eq_some_iff_append.mp here) c member)
      rw [List.replicate_succ, List.cons_append, splitAtFirst?, notHere, inductionHypothesis]
      rfl

end Lines

end Tablewright.Text
