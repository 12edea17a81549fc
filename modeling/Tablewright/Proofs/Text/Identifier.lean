import Tablewright.Proofs.Text.Case
import Tablewright.Text.Identifier

/-!
# Identifiers in small letters

What an identifier may go on with is closed under small letters: a shift of the case table moves all
of its characters into one range of such characters, unless it moves none of them. So an identifier
in small letters can stand behind another one.
-/

namespace Tablewright.Text

/-! ## Ranges -/

/-- Whether a range lies in another one. -/
def Span.holds
    (wide span : Span) : Bool :=
  decide (wide.first ≤ span.first) && decide (span.last ≤ wide.last)

/-- Whether each range of the second list lies in one of the first, when both lists ascend. -/
def Span.cover : List Span → List Span → Bool
  | [], spans => spans.isEmpty
  | wide :: others, spans => cover others (spans.dropWhile wide.holds)

theorem Span.anyContains_iff
    {spans : List Span}
    {c : Char} :
    Span.anyContains spans c = true ↔
      ∃ span ∈ spans, span.first ≤ c.toNat ∧ c.toNat ≤ span.last := by
  simp [Span.anyContains, Span.contains]

/-- Ranges that cover others hold their characters. -/
theorem Span.anyContains_of_cover
    {wide spans : List Span}
    (covers : Span.cover wide spans = true)
    {c : Char}
    (inside : Span.anyContains spans c = true) :
    Span.anyContains wide c = true := by
  induction wide generalizing spans with
  | nil =>
      rw [cover, List.isEmpty_iff] at covers
      rw [covers] at inside
      cases inside
  | cons first others inductionHypothesis =>
      obtain ⟨span, member, low, high⟩ := Span.anyContains_iff.mp inside
      rw [cover] at covers
      rw [← List.takeWhile_append_dropWhile (p := first.holds) (l := spans),
        List.mem_append] at member
      rcases member with taken | left
      · have within := List.all_eq_true.mp List.all_takeWhile span taken
        rw [Span.holds, Bool.and_eq_true_iff, decide_eq_true_eq, decide_eq_true_eq] at within
        exact Span.anyContains_iff.mpr
          ⟨first, List.mem_cons_self, Nat.le_trans within.1 low, Nat.le_trans high within.2⟩
      · have further := inductionHypothesis covers
          (Span.anyContains_iff.mpr ⟨span, left, low, high⟩)
        obtain ⟨wider, isOther, around⟩ := Span.anyContains_iff.mp further
        exact Span.anyContains_iff.mpr ⟨wider, List.mem_cons_of_mem first isOther, around⟩

/-- What may begin an identifier may go on with it. -/
theorem isIdentifierContinue_of_isIdentifierStart
    {c : Char}
    (starts : isIdentifierStart c = true) :
    isIdentifierContinue c = true := by
  have covers : Span.cover identifierContinueSpans identifierStartSpans = true := by
    decide +kernel
  exact Span.anyContains_of_cover covers starts

/-! ## Shifts -/

/-- Ranges that the small forms of identifiers are in. -/
def smallFormSpans : List Span :=
  [⟨0x61, 0x7A⟩, ⟨0xD8, 0xF6⟩, ⟨0xF8, 0x2C1⟩, ⟨0x300, 0x374⟩, ⟨0x376, 0x377⟩, ⟨0x37B, 0x37D⟩,
    ⟨0x3A3, 0x3F5⟩, ⟨0x3F7, 0x481⟩, ⟨0x48A, 0x52F⟩, ⟨0x560, 0x588⟩, ⟨0x10D0, 0x10FA⟩,
    ⟨0x10FC, 0x1248⟩, ⟨0x13F8, 0x13FD⟩, ⟨0x1D00, 0x1F15⟩, ⟨0x1F20, 0x1F45⟩, ⟨0x1F50, 0x1F57⟩,
    ⟨0x1F5F, 0x1F7D⟩, ⟨0x1F80, 0x1FB4⟩, ⟨0x1FC2, 0x1FC4⟩, ⟨0x1FD0, 0x1FD3⟩, ⟨0x1FE0, 0x1FEC⟩,
    ⟨0x1FF2, 0x1FF4⟩, ⟨0x214E, 0x214E⟩, ⟨0x2160, 0x2188⟩, ⟨0x2C00, 0x2CE4⟩, ⟨0x2CEB, 0x2CF3⟩,
    ⟨0x2D00, 0x2D25⟩, ⟨0x2D27, 0x2D27⟩, ⟨0x2D2D, 0x2D2D⟩, ⟨0xA640, 0xA66F⟩, ⟨0xA67F, 0xA6F1⟩,
    ⟨0xA722, 0xA788⟩, ⟨0xA78B, 0xA7CA⟩, ⟨0xA7D0, 0xA7D1⟩, ⟨0xA7D5, 0xA7D9⟩, ⟨0xA7F2, 0xA827⟩,
    ⟨0xAB30, 0xAB5A⟩, ⟨0xAB70, 0xABEA⟩, ⟨0xFF41, 0xFF5A⟩, ⟨0x10400, 0x1049D⟩, ⟨0x104D8, 0x104FB⟩,
    ⟨0x10597, 0x105A1⟩, ⟨0x105A3, 0x105B1⟩, ⟨0x105B3, 0x105B9⟩, ⟨0x105BB, 0x105BC⟩,
    ⟨0x10CC0, 0x10CF2⟩, ⟨0x118A0, 0x118E9⟩, ⟨0x16E40, 0x16E7F⟩, ⟨0x1E900, 0x1E94B⟩]

/-- A shift moves the characters of some ranges into one of the others, or moves none of them. -/
def Shift.MovesInto
    (spans others : List Span)
    (shift : Shift) : Prop :=
  (∃ span ∈ others,
      ((span.first : Int) ≤ shift.first + shift.distance ∧
          shift.last + shift.distance ≤ (span.last : Int)) ∧
        (span.last < 0xD800 ∨ (0xDFFF < span.first ∧ span.last < 0x110000))) ∨
    ∀ span ∈ spans, span.last < shift.first ∨ shift.last < span.first

instance
    (spans others : List Span)
    (shift : Shift) :
    Decidable (shift.MovesInto spans others) :=
  inferInstanceAs (Decidable ((∃ span ∈ others, _) ∨ ∀ span ∈ spans, _))

theorem Shift.MovesInto.anyContains_image?
    {spans others : List Span}
    {shift : Shift}
    (moves : shift.MovesInto spans others)
    {c image : Char}
    (shifts : shift.image? c = some image)
    (inside : Span.anyContains spans c = true) :
    Span.anyContains others image = true := by
  unfold Shift.image? at shifts
  dsimp only at shifts
  split at shifts
  · next within =>
      cases shifts
      rcases moves with ⟨span, member, ⟨low, high⟩, valid⟩ | apart
      · have isCharacter : Nat.isValidChar (c.toNat + shift.distance).toNat := by
          unfold Nat.isValidChar
          omega
        rw [Span.anyContains_iff, Char.ofNat, dif_pos isCharacter]
        refine ⟨span, member, ?_⟩
        change _ ≤ (c.toNat + shift.distance).toNat ∧ (c.toNat + shift.distance).toNat ≤ _
        omega
      · obtain ⟨span, member, low, high⟩ := Span.anyContains_iff.mp inside
        have outside := apart span member
        omega
  · cases shifts

theorem lowerShifts_moveInto_smallFormSpans :
    ∀ shift ∈ lowerShifts, shift.MovesInto identifierContinueSpans smallFormSpans := by
  decide +kernel

theorem isIdentifierContinue_of_smallForm
    {c : Char}
    (small : Span.anyContains smallFormSpans c = true) :
    isIdentifierContinue c = true := by
  have covers : Span.cover identifierContinueSpans smallFormSpans = true := by
    decide +kernel
  exact Span.anyContains_of_cover covers small

/-! ## Characters -/

/-- In small letters a character that may go on an identifier becomes such characters. -/
theorem isIdentifierContinue_of_mem_lowerAt
    {afterCased : Bool}
    {c d : Char}
    {rest : List Char}
    (continues : isIdentifierContinue c = true)
    (member : d ∈ lowerAt afterCased c rest) :
    isIdentifierContinue d = true := by
  unfold lowerAt at member
  split at member
  · have sigma : isIdentifierContinue 'ς' = true ∧ isIdentifierContinue 'σ' = true := by
      decide +kernel
    rw [List.mem_singleton.mp member]
    split
    · exact sigma.1
    · exact sigma.2
  · have expanding :
        (lowerExpansions.all fun expansion =>
          (expansion.image.map Char.ofNat).all isIdentifierContinue) = true := by
      decide +kernel
    rcases mapCase_cases lowerExpansions lowerShifts c with
      ⟨expansion, isExpansion, -, image⟩ | ⟨shift, isShift, other, isImage, image⟩ | same
    · rw [lowerChar, image] at member
      exact List.all_eq_true.mp (List.all_eq_true.mp expanding expansion isExpansion) d member
    · rw [lowerChar, image, List.mem_singleton] at member
      rw [member]
      have moves := lowerShifts_moveInto_smallFormSpans shift isShift
      exact isIdentifierContinue_of_smallForm (moves.anyContains_image? isImage continues)
    · rw [lowerChar, same, List.mem_singleton] at member
      rw [member]
      exact continues

/-! ## Texts -/

/-- No character of the text ends an identifier. -/
def GoesOn
    (chars : List Char) : Prop :=
  ∀ c ∈ chars, isIdentifierContinue c = true

theorem goesOn_of_isIdentifier
    {text : String}
    (identifier : isIdentifier text = true) :
    GoesOn text.toList := by
  unfold isIdentifier at identifier
  cases shape : text.toList with
  | nil =>
      exact List.forall_mem_nil _
  | cons first rest =>
      rw [shape, isIdentifierChars, Bool.and_eq_true_iff, List.all_eq_true] at identifier
      exact List.forall_mem_cons.mpr
        ⟨isIdentifierContinue_of_isIdentifierStart identifier.1, identifier.2⟩

/-- Small letters end no identifier where the letters they are of do not. -/
theorem GoesOn.lowerChars
    {chars : List Char}
    (goesOn : GoesOn chars) :
    GoesOn (lowerChars chars) := by
  refine lowerChars_induction (p := fun chars small => GoesOn chars → GoesOn small) ?_ ?_ chars
    goesOn
  · exact fun _ => List.forall_mem_nil _
  · intro afterCased c rest small inductionHypothesis goesOn
    obtain ⟨first, others⟩ := List.forall_mem_cons.mp goesOn
    refine List.forall_mem_append.mpr ⟨?_, inductionHypothesis others⟩
    exact fun d member => isIdentifierContinue_of_mem_lowerAt first member

/-- An identifier with characters behind it that do not end it is an identifier. -/
theorem isIdentifier_append
    {text form : String}
    (identifier : isIdentifier text = true)
    (goesOn : GoesOn form.toList) :
    isIdentifier (text ++ form) = true := by
  unfold isIdentifier at identifier ⊢
  rw [String.toList_append]
  cases shape : text.toList with
  | nil =>
      rw [shape] at identifier
      cases identifier
  | cons first rest =>
      rw [shape, isIdentifierChars, Bool.and_eq_true_iff] at identifier
      rw [List.cons_append, isIdentifierChars, List.all_append, identifier.1, identifier.2,
        List.all_eq_true.mpr goesOn]
      rfl

end Tablewright.Text
