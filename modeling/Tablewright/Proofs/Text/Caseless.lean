import Tablewright.Proofs.Text.Case

/-!
# Characters without case

A character has no case if no case mapping changes it or makes it of another. Such a character stands
in a text in small letters exactly when it stands in the text.
-/

namespace Tablewright.Text

/-- A character that no case mapping changes, and that none makes of another character. -/
structure IsCaseless
    (c : Char) : Prop where
  mem_lowerChar_iff : ∀ d, c ∈ lowerChar d ↔ d = c
  mem_upperChar_iff : ∀ d, c ∈ upperChar d ↔ d = c

/-! ## Tables -/

/-- A case mapping neither changes nor makes the character: its expansions do not hold it, and its
shifts pass by it. -/
def IsOutside
    (expansions : List Expansion)
    (shifts : List Shift)
    (c : Char) : Prop :=
  (∀ expansion ∈ expansions,
      expansion.source ≠ c.toNat ∧ c ∉ expansion.image.map Char.ofNat) ∧
    ∀ shift ∈ shifts,
      shift.Avoids [⟨c.toNat, c.toNat⟩] ∧ (c.toNat < shift.first ∨ shift.last < c.toNat)

instance
    (expansions : List Expansion)
    (shifts : List Shift)
    (c : Char) :
    Decidable (IsOutside expansions shifts c) :=
  inferInstanceAs (Decidable (_ ∧ _))

theorem IsOutside.mem_mapCase_iff
    {expansions : List Expansion}
    {shifts : List Shift}
    {c : Char}
    (outside : IsOutside expansions shifts c)
    (d : Char) :
    c ∈ mapCase expansions shifts d ↔ d = c := by
  obtain ⟨expanding, shifting⟩ := outside
  rcases mapCase_cases expansions shifts d with
    ⟨expansion, member, isSource, image⟩ | ⟨shift, member, other, isImage, image⟩ | same
  · obtain ⟨notSource, notMade⟩ := expanding expansion member
    rw [image, iff_false_left notMade]
    rintro rfl
    exact notSource isSource
  · obtain ⟨avoids, passesBy⟩ := shifting shift member
    have notMade : c ≠ other := by
      rintro rfl
      simpa [Span.anyContains, Span.contains] using avoids.anyContains_image? isImage
    rw [image, List.mem_singleton, iff_false_left notMade]
    rintro rfl
    unfold Shift.image? at isImage
    dsimp only at isImage
    split at isImage
    · next within =>
        omega
    · cases isImage
  · rw [same, List.mem_singleton, eq_comm]

theorem isCaseless_of_isOutside
    {c : Char}
    (outsideLower : IsOutside lowerExpansions lowerShifts c)
    (outsideUpper : IsOutside upperExpansions upperShifts c) :
    IsCaseless c :=
  ⟨outsideLower.mem_mapCase_iff, outsideUpper.mem_mapCase_iff⟩

theorem isCaseless_lineFeed :
    IsCaseless '\n' :=
  isCaseless_of_isOutside (by decide +kernel) (by decide +kernel)

theorem isCaseless_return :
    IsCaseless '\r' :=
  isCaseless_of_isOutside (by decide +kernel) (by decide +kernel)

theorem isCaseless_hyphen :
    IsCaseless '-' :=
  isCaseless_of_isOutside (by decide +kernel) (by decide +kernel)

/-! ## Small letters -/

namespace IsCaseless

variable {c : Char}

/-- The sigma that depends on what stands around it has case, and so have its small forms. -/
theorem mem_lowerAt_iff
    (caseless : IsCaseless c)
    (afterCased : Bool)
    (d : Char)
    (rest : List Char) :
    c ∈ lowerAt afterCased d rest ↔ d = c := by
  have sigma : lowerChar capitalSigma = ['σ'] ∧ upperChar 'ς' = [capitalSigma] := by
    decide +kernel
  unfold lowerAt
  split
  · next isSigma =>
      subst isSigma
      have notMedial : c ≠ 'σ' := by
        rintro rfl
        have same := (caseless.mem_lowerChar_iff capitalSigma).mp (by simp [sigma])
        revert same
        decide
      have notFinal : c ≠ 'ς' := by
        rintro rfl
        have kept := (caseless.mem_upperChar_iff 'ς').mpr rfl
        rw [sigma.2] at kept
        revert kept
        decide
      have notCapital : capitalSigma ≠ c := by
        rintro rfl
        have kept := (caseless.mem_lowerChar_iff capitalSigma).mpr rfl
        rw [sigma.1] at kept
        revert kept
        decide
      rw [List.mem_singleton, iff_false_right notCapital]
      split
      · exact notFinal
      · exact notMedial
  · exact caseless.mem_lowerChar_iff d

theorem mem_lowerChars_iff
    (caseless : IsCaseless c)
    {chars : List Char} :
    c ∈ lowerChars chars ↔ c ∈ chars := by
  refine lowerChars_induction (p := fun chars small => c ∈ small ↔ c ∈ chars) Iff.rfl ?_ chars
  intro afterCased first rest small inductionHypothesis
  rw [List.mem_append, caseless.mem_lowerAt_iff, inductionHypothesis, List.mem_cons, eq_comm]

end IsCaseless

end Tablewright.Text
