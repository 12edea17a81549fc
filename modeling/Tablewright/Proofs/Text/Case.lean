import Tablewright.Text.Case

/-!
# Case mappings

A case mapping takes what it makes of a character from a list of expansions or from a shift of a
range, so it makes nothing that both stay clear of. The small form of a text is that of its
characters one after another, where only a sigma depends on what stands around it. What is said of
one of the first 128 characters can be looked up in the table of them all.
-/

namespace Tablewright.Text

/-! ## Mappings -/

/-- No character that a shift makes is in one of the ranges. -/
def Shift.Avoids
    (spans : List Span)
    (shift : Shift) : Prop :=
  ∀ span ∈ spans,
    0 < span.first ∧
      ((shift.last : Int) + shift.distance < span.first ∨
        (span.last : Int) < shift.first + shift.distance)

instance
    (spans : List Span)
    (shift : Shift) :
    Decidable (shift.Avoids spans) :=
  inferInstanceAs (Decidable (∀ span ∈ spans, _ ∧ _))

/-- What is no code point stands for the first character. -/
private theorem toNat_charOfNat
    (code : Nat) :
    (Char.ofNat code).toNat = code ∨ (Char.ofNat code).toNat = 0 := by
  unfold Char.ofNat
  by_cases valid : code.isValidChar
  · rw [dif_pos valid]
    exact Or.inl rfl
  · rw [dif_neg valid]
    exact Or.inr rfl

/-- A character that a shift makes is in none of the ranges that the shift avoids. -/
theorem Shift.Avoids.anyContains_image?
    {spans : List Span}
    {shift : Shift}
    (avoids : shift.Avoids spans)
    {c image : Char}
    (shifts : shift.image? c = some image) :
    Span.anyContains spans image = false := by
  unfold Shift.image? at shifts
  dsimp only at shifts
  split at shifts
  · next within =>
      cases shifts
      simp only [Span.anyContains, List.any_eq_false, Span.contains, Bool.and_eq_true,
        decide_eq_true_eq]
      intro span member inside
      obtain ⟨positive, apart⟩ := avoids span member
      rcases toNat_charOfNat (c.toNat + shift.distance).toNat with code | code <;> omega
  · cases shifts

/-- A case mapping makes of a character what an expansion or a shift does, or leaves it alone. -/
theorem mapCase_cases
    (expansions : List Expansion)
    (shifts : List Shift)
    (c : Char) :
    (∃ expansion ∈ expansions,
        expansion.source = c.toNat ∧
          mapCase expansions shifts c = expansion.image.map Char.ofNat) ∨
      (∃ shift ∈ shifts,
        ∃ image, shift.image? c = some image ∧ mapCase expansions shifts c = [image]) ∨
      mapCase expansions shifts c = [c] := by
  unfold mapCase
  split
  · next image found =>
      obtain ⟨expansion, member, isImage⟩ := List.exists_of_findSome?_eq_some found
      unfold Expansion.image? at isImage
      split at isImage
      · next isSource =>
          cases isImage
          exact Or.inl ⟨expansion, member, isSource, rfl⟩
      · cases isImage
  · split
    · next image found =>
        obtain ⟨shift, member, isImage⟩ := List.exists_of_findSome?_eq_some found
        exact Or.inr (Or.inl ⟨shift, member, image, isImage, rfl⟩)
    · exact Or.inr (Or.inr rfl)

/-! ## Small letters -/

/-- What small forms keep character by character, whatever stands around, the small form of the text
keeps. -/
theorem lowerChars_induction
    {p : List Char → List Char → Prop}
    (empty : p [] [])
    (next :
      ∀ afterCased c rest small, p rest small → p (c :: rest) (lowerAt afterCased c rest ++ small))
    (chars : List Char) :
    p chars (lowerChars chars) := by
  have anywhere : ∀ afterCased, p chars (lowerFrom afterCased chars) := by
    induction chars with
    | nil =>
        exact fun _ => empty
    | cons c rest inductionHypothesis =>
        exact fun afterCased => next afterCased c rest _ (inductionHypothesis _)
  exact anywhere false

/-! ## The first characters -/

/-- What a table shows of the first characters holds of each. -/
@[elab_as_elim]
theorem of_ascii_table
    {p : Char → Prop}
    {c : Char}
    (early : c.toNat < 128)
    (table : ∀ code < 128, p (Char.ofNat code)) :
    p c := by
  have entry := table c.toNat early
  rwa [Char.ofNat_toNat] at entry

/-- The first characters have the small forms that they are known to have. -/
theorem lowerChar_of_lt
    {c : Char}
    (early : c.toNat < 128) :
    lowerChar c = [c.toLower] :=
  of_ascii_table early (by decide +kernel)

theorem lowerChars_of_lt
    {chars : List Char}
    (early : ∀ c ∈ chars, c.toNat < 128) :
    lowerChars chars = chars.map Char.toLower := by
  refine lowerChars_induction
    (p := fun chars small => (∀ c ∈ chars, c.toNat < 128) → small = chars.map Char.toLower) ?_ ?_
    chars early
  · exact fun _ => rfl
  · intro afterCased c rest small inductionHypothesis early
    obtain ⟨firstEarly, restEarly⟩ := List.forall_mem_cons.mp early
    have noSigma : c ≠ capitalSigma := by
      rintro rfl
      revert firstEarly
      decide
    rw [lowerAt, if_neg noSigma, lowerChar_of_lt firstEarly, inductionHypothesis restEarly]
    rfl

end Tablewright.Text
