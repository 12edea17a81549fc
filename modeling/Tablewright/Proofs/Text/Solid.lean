import Mathlib.Data.List.DropRight
import Tablewright.Proofs.Text.Case
import Tablewright.Text.Blank
import Tablewright.Text.Identifier

/-!
# Texts without blanks

A text is solid if it is not empty and no character of it is white space. No character gains white
space when it is put in small letters, so solid texts stay solid. Texts that can be defined as names
hold the characters of identifiers only, to which white space does not belong.
-/

namespace Tablewright.Text

/-- No character is white space. -/
def AreSolid
    (chars : List Char) : Prop :=
  ∀ c ∈ chars, isBlank c = false

instance
    (chars : List Char) :
    Decidable (AreSolid chars) :=
  decidable_of_iff (chars.all fun c => !isBlank c) (by simp [AreSolid])

/-- White space differs from what is none. -/
theorem ne_of_isBlank
    {c other : Char}
    (blank : isBlank c = true)
    (solid : isBlank other = false) :
    c ≠ other := by
  rintro rfl
  rw [solid] at blank
  cases blank

/-- A text that is not empty and holds no white space. -/
structure IsSolid
    (text : String) : Prop where
  ne_empty : text ≠ ""
  areSolid : AreSolid text.toList

namespace AreSolid

variable {chars others : List Char}

theorem append
    (first : AreSolid chars)
    (second : AreSolid others) :
    AreSolid (chars ++ others) :=
  List.forall_mem_append.mpr ⟨first, second⟩

theorem of_subset
    (solid : AreSolid chars)
    (within : others ⊆ chars) :
    AreSolid others :=
  fun c member => solid c (within member)

/-- Nothing is stripped from solid characters. -/
theorem stripChars_eq
    (solid : AreSolid chars) :
    stripChars chars = chars := by
  have kept {others : List Char} (otherSolid : AreSolid others) :
      others.dropWhile isBlank = others := by
    cases others with
    | nil =>
        rfl
    | cons c rest =>
        exact List.dropWhile_cons_of_neg (by simp [otherSolid c (by simp)])
  rw [stripChars, kept solid, kept (solid.of_subset (by simp)), List.reverse_reverse]

end AreSolid

/-- Characters that were stripped have nothing more to strip. -/
theorem stripChars_stripChars
    (chars : List Char) :
    stripChars (stripChars chars) = stripChars chars := by
  have isRight :
      stripChars chars = (chars.dropWhile isBlank).rdropWhile isBlank :=
    rfl
  -- What is left begins like what was left when only the front had been stripped.
  have front : (stripChars chars).dropWhile isBlank = stripChars chars := by
    refine List.dropWhile_eq_self_iff.mpr fun nonempty => ?_
    have isPrefix : stripChars chars <+: chars.dropWhile isBlank := by
      rw [isRight]
      exact List.rdropWhile_prefix isBlank _
    rw [isPrefix.getElem nonempty]
    exact List.dropWhile_eq_self_iff.mp (List.dropWhile_idempotent isBlank chars) _
  calc
    stripChars (stripChars chars) =
        ((stripChars chars).dropWhile isBlank).rdropWhile isBlank := rfl
    _ = (stripChars chars).rdropWhile isBlank := by rw [front]
    _ = stripChars chars := by rw [isRight, List.rdropWhile_idempotent]

theorem strip_strip
    (text : String) :
    strip (strip text) = strip text := by
  rw [strip, strip, String.toList_ofList, stripChars_stripChars]

/-! ## Small letters -/

/-- A case mapping leaves white space alone if its shifts avoid it and its expansions hold none. -/
theorem areSolid_mapCase
    {expansions : List Expansion}
    {shifts : List Shift}
    (expanding : ∀ expansion ∈ expansions, AreSolid (expansion.image.map Char.ofNat))
    (shifting : ∀ shift ∈ shifts, shift.Avoids blankSpans)
    {c : Char}
    (solid : isBlank c = false) :
    AreSolid (mapCase expansions shifts c) := by
  rcases mapCase_cases expansions shifts c with
    ⟨expansion, member, -, image⟩ | ⟨shift, member, other, isImage, image⟩ | same
  · rw [image]
    exact expanding expansion member
  · rw [image, AreSolid, List.forall_mem_singleton]
    exact (shifting shift member).anyContains_image? isImage
  · rw [same, AreSolid, List.forall_mem_singleton]
    exact solid

theorem lowerExpansions_areSolid :
    ∀ expansion ∈ lowerExpansions, AreSolid (expansion.image.map Char.ofNat) := by
  decide +kernel

theorem lowerShifts_avoid_blankSpans :
    ∀ shift ∈ lowerShifts, shift.Avoids blankSpans := by
  decide +kernel

/-- Solid characters are solid in small letters. -/
theorem AreSolid.lowerChars
    {chars : List Char}
    (solid : AreSolid chars) :
    AreSolid (lowerChars chars) := by
  refine lowerChars_induction (p := fun chars small => AreSolid chars → AreSolid small) ?_ ?_ chars
    solid
  · exact fun _ => List.forall_mem_nil _
  · intro afterCased c rest small inductionHypothesis solid
    obtain ⟨first, others⟩ := List.forall_mem_cons.mp solid
    refine AreSolid.append ?_ (inductionHypothesis others)
    unfold lowerAt
    split
    · intro sigma isSigma
      rw [List.mem_singleton.mp isSigma]
      split <;> decide
    · exact areSolid_mapCase lowerExpansions_areSolid lowerShifts_avoid_blankSpans first

/-! ## Identifiers -/

/-- What can neither begin an identifier nor go on with one stands in none. -/
theorem not_mem_of_isDefinable
    {name : String}
    (definable : isDefinable name = true)
    {c : Char}
    (noStart : isIdentifierStart c = false)
    (noContinue : isIdentifierContinue c = false) :
    c ∉ name.toList := by
  have spelled : isIdentifierChars name.toList = true := by
    unfold isDefinable isIdentifier at definable
    exact (Bool.and_eq_true_iff.mp definable).1
  intro member
  cases shape : name.toList with
  | nil =>
      rw [shape] at member
      cases member
  | cons first rest =>
      rw [shape, isIdentifierChars, Bool.and_eq_true_iff, List.all_eq_true] at spelled
      rw [shape] at member
      rcases List.mem_cons.mp member with rfl | inRest
      · rw [noStart] at spelled
        cases spelled.1
      · have continues := spelled.2 c inRest
        rw [noContinue] at continues
        cases continues

end Tablewright.Text
