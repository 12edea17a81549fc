import Tablewright.Naming.Forms
import Tablewright.Proofs.Text.Case

/-!
# Names made of segments

A well-formed table name is a list of segments with single low lines between them. A segment is a
small letter that small letters and digits may follow, so that in Pascal case nothing but its first
letter changes.
-/

namespace Tablewright.Naming

/-- A small letter, and the small letters and digits that follow it. -/
structure Segment where
  first : Char
  rest : List Char
  first_isSmall : isSmall first = true
  rest_isSmallOrDigit : ∀ c ∈ rest, isSmallOrDigit c = true

/-- A table name by its segments, of which there is at least one. -/
structure SegmentedName where
  first : Segment
  others : List Segment

namespace Segment

/-- The characters of a segment. -/
def chars
    (segment : Segment) : List Char :=
  segment.first :: segment.rest

/-- The capital letter that a segment begins with in Pascal case. -/
def capital
    (segment : Segment) : Char :=
  Char.ofNat (segment.first.toNat - 32)

/-- A segment in Pascal case. -/
def capitalized
    (segment : Segment) : List Char :=
  segment.capital :: segment.rest

end Segment

namespace SegmentedName

def segments
    (name : SegmentedName) : List Segment :=
  name.first :: name.others

/-- The characters of a name, with a low line between segments. -/
def chars
    (name : SegmentedName) : List Char :=
  List.intercalate ['_'] (name.segments.map Segment.chars)

def text
    (name : SegmentedName) : String :=
  String.ofList name.chars

end SegmentedName

/-! ## Letters and digits -/

theorem isSmall_iff
    {c : Char} :
    isSmall c = true ↔ 97 ≤ c.toNat ∧ c.toNat ≤ 122 := by
  simp only [isSmall, Bool.and_eq_true, decide_eq_true_eq, Char.le_def, UInt32.le_iff_toNat_le]
  exact Iff.rfl

theorem isCapital_iff
    {c : Char} :
    isCapital c = true ↔ 65 ≤ c.toNat ∧ c.toNat ≤ 90 := by
  simp only [isCapital, Bool.and_eq_true, decide_eq_true_eq, Char.le_def, UInt32.le_iff_toNat_le]
  exact Iff.rfl

theorem isSmallOrDigit_iff
    {c : Char} :
    isSmallOrDigit c = true ↔
      (97 ≤ c.toNat ∧ c.toNat ≤ 122) ∨ (48 ≤ c.toNat ∧ c.toNat ≤ 57) := by
  simp only [isSmallOrDigit, Bool.or_eq_true, isSmall_iff, Bool.and_eq_true, decide_eq_true_eq,
    Char.le_def, UInt32.le_iff_toNat_le]
  exact Iff.rfl

/-- Small letters and digits are no capital letters. -/
theorem isCapital_eq_false
    {c : Char}
    (plain : isSmallOrDigit c = true) :
    isCapital c = false := by
  rw [isSmallOrDigit_iff] at plain
  rw [← Bool.not_eq_true, isCapital_iff]
  omega

theorem isSmallOrDigit_of_isSmall
    {c : Char}
    (small : isSmall c = true) :
    isSmallOrDigit c = true := by
  simp [isSmallOrDigit, small]

/-- Capital letters are neither small letters nor digits. -/
theorem isSmallOrDigit_eq_false
    {c : Char}
    (capital : isCapital c = true) :
    isSmallOrDigit c = false := by
  cases plain : isSmallOrDigit c with
  | false =>
      rfl
  | true =>
      rw [isCapital_eq_false plain] at capital
      cases capital

/-- A letter or digit of those that names of methods are made of. -/
def IsLetterOrDigit
    (c : Char) : Prop :=
  isCapital c = true ∨ isSmallOrDigit c = true

/-- Letters and digits come early among the characters. -/
theorem IsLetterOrDigit.toNat_lt
    {c : Char}
    (plain : IsLetterOrDigit c) :
    c.toNat < 128 := by
  rw [IsLetterOrDigit, isCapital_iff, isSmallOrDigit_iff] at plain
  omega

/-- What the letters and digits are not. -/
theorem IsLetterOrDigit.ne
    {c other : Char}
    (plain : IsLetterOrDigit c)
    (neither : isCapital other = false ∧ isSmallOrDigit other = false) :
    c ≠ other := by
  rintro rfl
  simp [IsLetterOrDigit, neither.1, neither.2] at plain

/-- Small letters and digits are their own small forms. -/
theorem toLower_of_isSmallOrDigit
    {c : Char}
    (plain : isSmallOrDigit c = true) :
    c.toLower = c := by
  have early : c.toNat < 128 :=
    IsLetterOrDigit.toNat_lt (Or.inr plain)
  have known : isSmallOrDigit c = true → c.toLower = c :=
    Text.of_ascii_table early (by decide +kernel)
  exact known plain

/-- Texts of small letters and digits are their own small forms. -/
theorem lowerChars_of_isSmallOrDigit
    {chars : List Char}
    (plain : ∀ c ∈ chars, isSmallOrDigit c = true) :
    Text.lowerChars chars = chars := by
  have early : ∀ c ∈ chars, c.toNat < 128 := fun c member =>
    IsLetterOrDigit.toNat_lt (Or.inr (plain c member))
  rw [Text.lowerChars_of_lt early]
  calc
    chars.map Char.toLower = chars.map id :=
      List.map_congr_left fun c member => toLower_of_isSmallOrDigit (plain c member)
    _ = chars := List.map_id chars

/-! ## Segments in Pascal case -/

namespace Segment

variable (segment : Segment)

theorem first_toNat_lt :
    segment.first.toNat < 128 :=
  IsLetterOrDigit.toNat_lt (Or.inr (isSmallOrDigit_of_isSmall segment.first_isSmall))

/-- A segment begins with the capital form of its first letter. -/
theorem upperChar_first :
    Text.upperChar segment.first = [segment.capital] ∧ isCapital segment.capital = true := by
  have known {c : Char} (early : c.toNat < 128) :
      isSmall c = true →
        Text.upperChar c = [Char.ofNat (c.toNat - 32)] ∧
          isCapital (Char.ofNat (c.toNat - 32)) = true :=
    Text.of_ascii_table early (by decide +kernel)
  exact known segment.first_toNat_lt segment.first_isSmall

theorem isCapital_capital :
    isCapital segment.capital = true :=
  segment.upperChar_first.2

theorem capitalize_chars :
    capitalize segment.chars = segment.capitalized := by
  have small : Text.lowerChars segment.rest = segment.rest :=
    lowerChars_of_isSmallOrDigit segment.rest_isSmallOrDigit
  rw [chars, capitalize, segment.upperChar_first.1, small]
  rfl

/-- A segment in Pascal case holds letters and digits only. -/
theorem isLetterOrDigit_of_mem_capitalized
    {c : Char}
    (member : c ∈ segment.capitalized) :
    IsLetterOrDigit c := by
  rcases List.mem_cons.mp member with rfl | inRest
  · exact Or.inl segment.isCapital_capital
  · exact Or.inr (segment.rest_isSmallOrDigit c inRest)

/-- A segment holds small letters and digits only. -/
theorem isSmallOrDigit_of_mem_chars :
    ∀ c ∈ segment.chars, isSmallOrDigit c = true := by
  intro c member
  rcases List.mem_cons.mp member with rfl | inRest
  · exact isSmallOrDigit_of_isSmall segment.first_isSmall
  · exact segment.rest_isSmallOrDigit c inRest

/-- There is no low line in a segment. -/
theorem low_line_not_mem_chars :
    '_' ∉ segment.chars := by
  intro member
  have plain := segment.isSmallOrDigit_of_mem_chars '_' member
  revert plain
  decide

end Segment

/-- Segments are found again where there is no low line before the first one. -/
theorem segmentsOf_append_low_line
    {segment : List Char}
    (free : '_' ∉ segment)
    (rest : List Char) :
    segmentsOf (segment ++ '_' :: rest) =
      (segment, (segmentsOf rest).1 :: (segmentsOf rest).2) := by
  induction segment with
  | nil =>
      simp [segmentsOf]
  | cons c segment inductionHypothesis =>
      simp only [List.mem_cons, not_or] at free
      obtain ⟨notFirst, notRest⟩ := free
      simp [segmentsOf, inductionHypothesis notRest, Ne.symm notFirst]

/-- A text without low lines is a single segment. -/
theorem segmentsOf_of_not_mem
    {segment : List Char}
    (free : '_' ∉ segment) :
    segmentsOf segment = (segment, []) := by
  induction segment with
  | nil =>
      rfl
  | cons c segment inductionHypothesis =>
      simp only [List.mem_cons, not_or] at free
      obtain ⟨notFirst, notRest⟩ := free
      simp [segmentsOf, inductionHypothesis notRest, Ne.symm notFirst]

theorem flatMap_capitalize_chars
    (segments : List Segment) :
    (segments.map Segment.chars).flatMap capitalize = segments.flatMap Segment.capitalized := by
  rw [List.flatMap_map]
  congr 1
  funext segment
  exact segment.capitalize_chars

namespace SegmentedName

theorem chars_cons
    (first next : Segment)
    (others : List Segment) :
    chars ⟨first, next :: others⟩ = first.chars ++ '_' :: chars ⟨next, others⟩ := by
  simp [chars, segments, List.intercalate]

/-- The segments of a name are found again in its text. -/
theorem segmentsOf_chars
    (name : SegmentedName) :
    segmentsOf name.chars = (name.first.chars, name.others.map Segment.chars) := by
  obtain ⟨first, others⟩ := name
  induction others generalizing first with
  | nil =>
      simpa [chars, segments, List.intercalate] using
        segmentsOf_of_not_mem first.low_line_not_mem_chars
  | cons next others inductionHypothesis =>
      rw [chars_cons, segmentsOf_append_low_line first.low_line_not_mem_chars,
        inductionHypothesis next]
      rfl

/-- In Pascal case the segments stand side by side, each with a capital letter first. -/
theorem pascalChars_chars
    (name : SegmentedName) :
    pascalChars name.chars = name.segments.flatMap Segment.capitalized := by
  rw [pascalChars, name.segmentsOf_chars]
  dsimp only
  rw [flatMap_capitalize_chars, name.first.capitalize_chars, segments, List.flatMap_cons]

end SegmentedName

end Tablewright.Naming
