import Mathlib.Data.List.TakeWhile
import Tablewright.Proofs.Text.Lines
import Tablewright.Template.Base
import Tablewright.Text.Blank

/-!
# The marker of the base template

The base template has one line that is its marker behind four spaces. A marker is usable when a
reader of the template finds it there and nowhere else. It is, exactly when it has no carriage
return, which would be read as a line end, and no other line of the template holds it.
-/

namespace Tablewright.Template

open Text (lineChars countFrom splitAtFirst?)

/-- The lines before the marker: those of the class up to the comment on the methods. -/
def linesBefore
    (className : String) : List String :=
  headingLines className ++ classLines className ++ filterLines ++ getAllLines ++ getByIdLines ++
    createLines ++ createManyLines ++ updateRecordLines ++ updateLines ++ updateManyLines ++
    deleteLines ++ ["    # Generated CRUD methods for specific tables"]

/-- The lines after the marker, the first of which ends the class. -/
def linesAfter
    (className : String) : List String :=
  ["",
    "",
    "def create_api(url: str, key: str) -> " ++ className ++ ":",
    "    \"\"\"Build a " ++ className ++ " backed by a new Supabase client.\"\"\"",
    "    from supabase import create_client",
    "",
    "    return " ++ className ++ "(create_client(url, key))"]

/-- The marker has a line of its own. -/
theorem baseLines_eq
    (className placeholder : String) :
    baseLines className placeholder =
      linesBefore className ++ ("    " ++ placeholder) :: linesAfter className := by
  simp [baseLines, markerLines, linesBefore, linesAfter]

theorem toList_base
    (className placeholder : String) :
    (base className placeholder).toList =
      lineChars (linesBefore className) ++
        (("    " ++ placeholder).toList ++ '\n' :: lineChars (linesAfter className)) := by
  have nonempty : baseLines className placeholder ≠ [] := List.cons_ne_nil _ _
  rw [base, Text.toList_intercalate_append nonempty, baseLines_eq]
  simp [lineChars]

/-- The text before the marker. -/
def textBefore
    (className : String) : String :=
  String.intercalate "\n" (linesBefore className) ++ "\n" ++ "    "

/-- The text after the marker. -/
def textAfter
    (className : String) : String :=
  "\n" ++ (String.intercalate "\n" (linesAfter className) ++ "\n")

/-- What a reader of the template gets, for whom all line ends are line feeds. -/
def readBase
    (className placeholder : String) : String :=
  String.ofList (Text.unifyLineEnds (base className placeholder).toList)

/-- A text has its marker once, and methods that take the place of the first marker come where the
template has it. -/
structure HasUsableMarker
    (className placeholder text : String) : Prop where
  once : Text.countOccurrences placeholder text = 1
  place :
    ∀ methods,
      Text.replaceFirst placeholder methods text =
        textBefore className ++ methods ++ textAfter className

/-- No line of the template but that of the marker holds the marker. -/
def HasOwnMarkerLine
    (className placeholder : String) : Prop :=
  ∀ line ∈ linesBefore className ++ linesAfter className, Text.occursIn placeholder line = false

instance (className placeholder : String) : Decidable (HasOwnMarkerLine className placeholder) :=
  inferInstanceAs (Decidable (∀ line ∈ _ ++ _, _))

/-! What the lines of the template hold is seen once for all class names. -/

/-- The usual marker. -/
def usualMarker : List Char :=
  ['#', ' ', '[', 'T', 'A', 'B', 'L', 'E', '_', 'M', 'E', 'T', 'H', 'O', 'D', 'S', ']']

/-- A line is ordinary if it has neither a carriage return nor the usual marker in it. -/
structure IsOrdinary
    (line : List Char) : Prop where
  noReturn : '\r' ∉ line
  noMarker : splitAtFirst? usualMarker line = none

instance (line : List Char) : Decidable (IsOrdinary line) :=
  decidable_of_iff ('\r' ∉ line ∧ splitAtFirst? usualMarker line = none)
    ⟨fun ⟨noReturn, noMarker⟩ => ⟨noReturn, noMarker⟩,
      fun ⟨noReturn, noMarker⟩ => ⟨noReturn, noMarker⟩⟩

/-- A text that keeps no line from being ordinary: it has nothing that a marker begins with. -/
structure IsHarmless
    (text : List Char) : Prop where
  noReturn : '\r' ∉ text
  noSign : '#' ∉ text

instance (text : List Char) : Decidable (IsHarmless text) :=
  decidable_of_iff ('\r' ∉ text ∧ '#' ∉ text)
    ⟨fun ⟨noReturn, noSign⟩ => ⟨noReturn, noSign⟩,
      fun ⟨noReturn, noSign⟩ => ⟨noReturn, noSign⟩⟩

private theorem IsHarmless.isOrdinary
    {text : List Char}
    (harmless : IsHarmless text) :
    IsOrdinary text := by
  refine ⟨harmless.noReturn, Text.splitAtFirst?_eq_none_iff.mpr ?_⟩
  intro before after occurs
  apply harmless.noSign
  rw [occurs]
  simp [usualMarker]

private theorem IsHarmless.append
    {text other : String}
    (harmless : IsHarmless text.toList)
    (otherHarmless : IsHarmless other.toList) :
    IsHarmless (text ++ other).toList := by
  rw [String.toList_append]
  exact ⟨fun member => (List.mem_append.mp member).elim harmless.noReturn otherHarmless.noReturn,
    fun member => (List.mem_append.mp member).elim harmless.noSign otherHarmless.noSign⟩

private theorem isHarmless_ofList
    {chars : List Char}
    (harmless : IsHarmless chars) :
    IsHarmless (String.ofList chars).toList := by
  rwa [String.toList_ofList]

private theorem isOrdinary_ofList
    {chars : List Char}
    (ordinary : IsOrdinary chars) :
    IsOrdinary (String.ofList chars).toList := by
  rwa [String.toList_ofList]

/-- A line with the name of a class between two texts is ordinary if all of them are harmless. -/
private theorem isOrdinary_between
    {className : String}
    (harmless : IsHarmless className.toList)
    (before after : String)
    (beforeHarmless : IsHarmless before.toList)
    (afterHarmless : IsHarmless after.toList) :
    IsOrdinary (before ++ className ++ after).toList :=
  ((beforeHarmless.append harmless).append afterHarmless).isOrdinary

/-- All lines but that of the marker are ordinary if the name of the class is harmless. -/
theorem isOrdinary_of_mem_lines
    {className : String}
    (harmless : IsHarmless className.toList) :
    ∀ line ∈ linesBefore className ++ linesAfter className, IsOrdinary line.toList := by
  have constant : IsOrdinary ("NOT_FOUND_ERROR_CODE = " ++ Text.quoted notFoundCode).toList := by
    decide +kernel
  have introduction :
      IsOrdinary
        (className ++ " holds the generic CRUD primitives. The per-table methods that").toList :=
    (harmless.append (isHarmless_ofList (by decide +kernel))).isOrdinary
  have declaration := isOrdinary_between harmless "class " ":"
    (isHarmless_ofList (by decide +kernel)) (isHarmless_ofList (by decide +kernel))
  have builder := isOrdinary_between harmless "def create_api(url: str, key: str) -> " ":"
    (isHarmless_ofList (by decide +kernel)) (isHarmless_ofList (by decide +kernel))
  have description := isOrdinary_between harmless "    \"\"\"Build a "
    " backed by a new Supabase client.\"\"\""
    (isHarmless_ofList (by decide +kernel)) (isHarmless_ofList (by decide +kernel))
  have built := isOrdinary_between harmless "    return " "(create_client(url, key))"
    (isHarmless_ofList (by decide +kernel)) (isHarmless_ofList (by decide +kernel))
  simp only [linesBefore, linesAfter, headingLines, classLines, filterLines, getAllLines,
    getByIdLines, createLines, createManyLines, updateRecordLines, updateLines, updateManyLines,
    deleteLines, List.forall_mem_append, List.forall_mem_cons, List.not_mem_nil, false_implies,
    implies_true, and_true, true_and, constant, introduction, declaration, builder, description,
    built]
  -- The lines that are left are written out in full.
  repeat' apply And.intro
  all_goals exact isOrdinary_ofList (by decide +kernel)

section Marker

variable {className placeholder : String}

theorem exists_ne_space_of_strip
    (notBlank : Text.strip placeholder ≠ "") :
    ∃ c ∈ placeholder.toList, c ≠ ' ' := by
  by_contra none
  push Not at none
  apply notBlank
  have allBlank : placeholder.toList.dropWhile Text.isBlank = [] := by
    rw [List.dropWhile_eq_nil_iff]
    intro c member
    rw [none c member]
    decide
  rw [Text.strip, Text.stripChars, allBlank]
  rfl

theorem splitAtFirst?_markerLine
    (notBlank : Text.strip placeholder ≠ "") :
    splitAtFirst? placeholder.toList ("    " ++ placeholder).toList = some ("    ".toList, []) := by
  obtain ⟨c, member, noSpace⟩ := exists_ne_space_of_strip notBlank
  rw [String.toList_append]
  exact Text.splitAtFirst?_indented member noSpace 4

private theorem toList_ne_nil
    (notBlank : Text.strip placeholder ≠ "") :
    placeholder.toList ≠ [] := by
  obtain ⟨c, member, -⟩ := exists_ne_space_of_strip notBlank
  exact List.ne_nil_of_mem member

private theorem occursIn_eq_false_iff
    {line : String} :
    Text.occursIn placeholder line = false ↔
      splitAtFirst? placeholder.toList line.toList = none := by
  simp [Text.occursIn]

/-- The marker occurs once in the template exactly when it has a line of its own. -/
theorem countOccurrences_base_iff
    (oneLine : '\n' ∉ placeholder.toList)
    (notBlank : Text.strip placeholder ≠ "") :
    Text.countOccurrences placeholder (base className placeholder) = 1 ↔
      HasOwnMarkerLine className placeholder := by
  have nonempty := toList_ne_nil notBlank
  -- One occurrence is in the line of the marker, so there must be none in the others.
  have marker :
      countFrom placeholder.toList 0 ("    " ++ placeholder).toList = 1 := by
    rw [Text.countFrom_eq nonempty, splitAtFirst?_markerLine notBlank]
    rfl
  have ended := Text.countFrom_lineChars_append oneLine nonempty (linesAfter className) []
  rw [List.append_nil] at ended
  rw [Text.countOccurrences_eq_countFrom nonempty, toList_base,
    Text.countFrom_lineChars_append oneLine nonempty,
    Text.countFrom_append_lineEnd oneLine nonempty _ _ (Nat.zero_le _), marker, ended]
  simp only [HasOwnMarkerLine, List.forall_mem_append, occursIn_eq_false_iff,
    ← Text.countInLines_eq_zero_iff nonempty, countFrom]
  omega

/-- In a template whose marker has a line of its own, methods come in the place of the marker. -/
theorem replaceFirst_base
    (oneLine : '\n' ∉ placeholder.toList)
    (notBlank : Text.strip placeholder ≠ "")
    (own : HasOwnMarkerLine className placeholder)
    (methods : String) :
    Text.replaceFirst placeholder methods (base className placeholder) =
      textBefore className ++ methods ++ textAfter className := by
  have nonempty := toList_ne_nil notBlank
  have absent :
      ∀ line ∈ linesBefore className,
        splitAtFirst? placeholder.toList line.toList = none := by
    intro line member
    exact occursIn_eq_false_iff.mp (own line (List.mem_append_left _ member))
  have splits :
      splitAtFirst? placeholder.toList (base className placeholder).toList =
        some (lineChars (linesBefore className) ++ "    ".toList,
          '\n' :: lineChars (linesAfter className)) := by
    rw [toList_base, Text.splitAtFirst?_lineChars_append oneLine nonempty absent,
      Text.splitAtFirst?_append_lineEnd oneLine nonempty, splitAtFirst?_markerLine notBlank]
    rfl
  have before :
      (textBefore className).toList = lineChars (linesBefore className) ++ "    ".toList := by
    have some : linesBefore className ≠ [] := List.cons_ne_nil _ _
    rw [textBefore, String.toList_append, Text.toList_intercalate_append some]
  have after : (textAfter className).toList = '\n' :: lineChars (linesAfter className) := by
    have some : linesAfter className ≠ [] := List.cons_ne_nil _ _
    rw [textAfter, String.toList_append, Text.toList_intercalate_append some]
    rfl
  rw [Text.replaceFirst, splits, ← String.toList_inj]
  dsimp only
  rw [String.toList_ofList, String.toList_append, String.toList_append, before, after]

theorem readBase_eq
    (harmless : IsHarmless className.toList)
    (free : '\r' ∉ placeholder.toList) :
    readBase className placeholder = base className placeholder := by
  have baseFree : '\r' ∉ (base className placeholder).toList := by
    have linesFree :
        ∀ line ∈ baseLines className placeholder, '\r' ∉ line.toList := by
      intro line member
      rw [baseLines_eq, List.mem_append, List.mem_cons] at member
      have ordinary := isOrdinary_of_mem_lines harmless
      rcases member with before | rfl | after
      · exact (ordinary line (List.mem_append_left _ before)).noReturn
      · simpa using free
      · exact (ordinary line (List.mem_append_right _ after)).noReturn
    have nonempty : baseLines className placeholder ≠ [] := List.cons_ne_nil _ _
    rw [base, Text.toList_intercalate_append nonempty, lineChars, List.mem_flatMap]
    rintro ⟨line, member, inLine⟩
    rcases List.mem_append.mp inLine with returns | isEnd
    · exact linesFree line member returns
    · cases List.mem_singleton.mp isEnd
  rw [readBase, Text.unifyLineEnds_of_not_mem baseFree, String.ofList_toList]

/-- A marker with a carriage return is never read. -/
theorem countOccurrences_readBase_of_mem
    (returns : '\r' ∈ placeholder.toList) :
    Text.countOccurrences placeholder (readBase className placeholder) = 0 := by
  have nonempty : placeholder.toList ≠ [] := List.ne_nil_of_mem returns
  rw [Text.countOccurrences_eq_countFrom nonempty, Text.countFrom_eq_zero_iff nonempty, readBase,
    String.toList_ofList, Text.splitAtFirst?_eq_none_iff]
  intro before after occurs
  apply Text.not_mem_unifyLineEnds (base className placeholder).toList
  rw [occurs]
  simp [returns]

/-- The marker of the template is usable exactly when it has no carriage return and has a line of
its own. -/
theorem hasUsableMarker_readBase_iff
    (harmless : IsHarmless className.toList)
    (oneLine : '\n' ∉ placeholder.toList)
    (notBlank : Text.strip placeholder ≠ "") :
    HasUsableMarker className placeholder (readBase className placeholder) ↔
      '\r' ∉ placeholder.toList ∧ HasOwnMarkerLine className placeholder := by
  constructor
  · rintro ⟨once, -⟩
    have free : '\r' ∉ placeholder.toList := by
      intro returns
      rw [countOccurrences_readBase_of_mem returns] at once
      cases once
    rw [readBase_eq harmless free] at once
    exact ⟨free, (countOccurrences_base_iff oneLine notBlank).mp once⟩
  · rintro ⟨free, own⟩
    rw [readBase_eq harmless free]
    exact ⟨(countOccurrences_base_iff oneLine notBlank).mpr own,
      replaceFirst_base oneLine notBlank own⟩

/-- The usual marker has a line of its own in the template of every class. -/
theorem hasOwnMarkerLine_usual
    (harmless : IsHarmless className.toList) :
    HasOwnMarkerLine className "# [TABLE_METHODS]" := by
  intro line member
  rw [occursIn_eq_false_iff]
  exact (isOrdinary_of_mem_lines harmless line member).noMarker

end Marker

end Tablewright.Template
