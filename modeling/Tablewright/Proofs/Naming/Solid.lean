import Tablewright.Naming.Forms
import Tablewright.Proofs.Text.Solid

/-!
# Forms of solid names

Every name without white space has forms. The pluralizer by the lexicon fails only for a last
segment that is blank; no rule makes blanks of a solid word, and what a compound becomes holds a
hyphen.
-/

namespace Tablewright.Naming

open Text (AreSolid IsSolid isBlank)

/-- Characters that are none at all or not all white space. -/
def HoldsWord
    (chars : List Char) : Prop :=
  chars = [] ∨ ∃ c ∈ chars, isBlank c = false

theorem holdsWord_of_areSolid
    {chars : List Char}
    (solid : AreSolid chars) :
    HoldsWord chars := by
  cases chars with
  | nil =>
      exact Or.inl rfl
  | cons c rest =>
      exact Or.inr ⟨c, by simp, solid c (by simp)⟩

/-- A character that is no white space is not stripped. -/
theorem mem_stripChars
    {chars : List Char}
    {c : Char}
    (member : c ∈ chars)
    (solid : isBlank c = false) :
    c ∈ Text.stripChars chars := by
  have kept {others : List Char} (otherMember : c ∈ others) :
      c ∈ others.dropWhile isBlank := by
    rw [← List.takeWhile_append_dropWhile (p := isBlank) (l := others)] at otherMember
    rcases List.mem_append.mp otherMember with taken | left
    · have blank := List.all_eq_true.mp List.all_takeWhile c taken
      rw [solid] at blank
      cases blank
    · exact left
  rw [Text.stripChars, List.mem_reverse]
  exact kept (List.mem_reverse.mpr (kept member))

/-- A change inside blanks fails only for blanks. -/
theorem exists_insideBlanks
    {word : List Char}
    (holds : HoldsWord word)
    (change : List Char → List Char) :
    ∃ form, insideBlanks change word = some form := by
  unfold insideBlanks
  dsimp only
  split
  · next empty =>
      rcases holds with rfl | ⟨c, member, solid⟩
      · exact ⟨[], rfl⟩
      · rw [List.isEmpty_iff] at empty
        have left := mem_stripChars member solid
        rw [empty] at left
        cases left
  · split
    · exact ⟨_, rfl⟩
    · exact ⟨_, rfl⟩

/-- A change inside blanks is a change of the whole word if that is solid. -/
theorem insideBlanks_of_areSolid
    {word : List Char}
    (solid : AreSolid word)
    (nonempty : word ≠ [])
    (change : List Char → List Char) :
    insideBlanks change word = some (change word) := by
  have noBlank {chars : List Char} (charsSolid : AreSolid chars) :
      chars.takeWhile isBlank = [] := by
    cases chars with
    | nil =>
        rfl
    | cons c rest =>
        exact List.takeWhile_cons_of_neg (by simp [charsSolid c (by simp)])
  have noLineEnd : '\n' ∉ word := by
    intro member
    have solidEnd := solid '\n' member
    revert solidEnd
    decide
  unfold insideBlanks
  simp only [solid.stripChars_eq]
  rw [if_neg (by simpa using nonempty), if_neg (by simpa using noLineEnd), noBlank solid,
    noBlank (solid.of_subset (by simp))]
  simp

/-! ## Rules -/

/-- A rule that makes solid forms of solid words. -/
def KeepsSolid
    (rule : List Char → Option (List Char)) : Prop :=
  ∀ word form, AreSolid word → rule word = some form → AreSolid form

theorem areSolid_replaceEnd
    {drop : Nat}
    {add : String}
    {word : List Char}
    (addsSolid : AreSolid add.toList)
    (solid : AreSolid word) :
    AreSolid (replaceEnd drop add word) :=
  (solid.of_subset (List.take_subset _ _)).append addsSolid

theorem keepsSolid_endingRule
    {rule : EndingRule}
    (addsSolid : AreSolid rule.add.toList) :
    KeepsSolid rule.apply? := by
  intro word form solid applies
  unfold EndingRule.apply? at applies
  split at applies
  · cases applies
    exact areSolid_replaceEnd addsSolid solid
  · cases applies

theorem keepsSolid_onlyIf
    {condition : List Char → Bool}
    {rule : List Char → Option (List Char)}
    (keeps : KeepsSolid rule) :
    KeepsSolid (onlyIf condition rule) := by
  intro word form solid applies
  unfold onlyIf at applies
  split at applies
  · exact keeps word form solid applies
  · cases applies

/-- What is found in a list of pairs is the second part of one of them. -/
theorem exists_mem_of_lookup
    {pairs : List (String × String)}
    {key partner : String}
    (found : pairs.lookup key = some partner) :
    ∃ pair ∈ pairs, pair.2 = partner := by
  obtain ⟨before, after, rfl, -⟩ := List.lookup_eq_some_iff.mp found
  exact ⟨(key, partner), by simp, rfl⟩

theorem keepsSolid_forPairs
    {pairs : List (String × String)}
    (partnersSolid : ∀ pair ∈ pairs, AreSolid pair.2.toList) :
    KeepsSolid (forPairs pairs) := by
  intro word form solid applies
  obtain ⟨partner, found, rfl⟩ := Option.map_eq_some_iff.mp applies
  obtain ⟨pair, member, rfl⟩ := exists_mem_of_lookup found
  exact areSolid_replaceEnd (partnersSolid pair member) solid

theorem keepsSolid_forWholePairs
    {pairs : List (String × String)}
    (partnersSolid : ∀ pair ∈ pairs, AreSolid pair.2.toList) :
    KeepsSolid (forWholePairs pairs) := by
  intro word form solid applies
  obtain ⟨partner, found, rfl⟩ := Option.map_eq_some_iff.mp applies
  obtain ⟨pair, member, rfl⟩ := exists_mem_of_lookup found
  exact partnersSolid pair member

theorem singularRules_keepSolid :
    ∀ rule ∈ singularRules, KeepsSolid rule := by
  simp only [singularRules, List.forall_mem_cons]
  repeat' apply And.intro
  all_goals first
    | exact keepsSolid_endingRule (by decide)
    | exact keepsSolid_onlyIf (keepsSolid_endingRule (by decide))
    | exact keepsSolid_forPairs (by decide +kernel)
    | exact keepsSolid_forWholePairs (by decide +kernel)
    | simp

/-- The singular of a solid word is not all white space. -/
theorem holdsWord_of_singularOf?
    {word form : List Char}
    (solid : AreSolid word)
    (found : singularOf? word = some form) :
    HoldsWord form := by
  unfold singularOf? at found
  split at found
  · cases found
    exact holdsWord_of_areSolid solid
  · split at found
    · cases found
    · unfold inflectWith at found
      dsimp only at found
      split at found
      · cases found
        exact Or.inr ⟨'-', by simp [joinCompound], by decide⟩
      · obtain ⟨rule, member, applies⟩ := List.exists_of_findSome?_eq_some found
        exact holdsWord_of_areSolid (singularRules_keepSolid rule member word form solid applies)

/-- A solid word has a singular and a plural. -/
theorem exists_inflectWord
    {word : List Char}
    (solid : AreSolid word)
    (nonempty : word ≠ []) :
    ∃ forms, inflectWord word = some forms := by
  have holds : HoldsWord (orStandIn ((singularOf? word).getD word) word) := by
    unfold orStandIn
    split
    · exact holdsWord_of_areSolid solid
    · cases found : singularOf? word with
      | none =>
          exact holdsWord_of_areSolid solid
      | some form =>
          exact holdsWord_of_singularOf? solid found
  obtain ⟨plural, hasPlural⟩ := exists_insideBlanks holds pluralOf
  apply Option.isSome_iff_exists.mp
  simp [inflectWord, insideBlanks_of_areSolid solid nonempty, hasPlural]

/-! ## Names -/

/-- Segments hold characters of their name. -/
theorem subset_of_mem_segmentsOf
    {name segment : List Char}
    (member : segment ∈ (segmentsOf name).1 :: (segmentsOf name).2) :
    segment ⊆ name := by
  induction name generalizing segment with
  | nil =>
      simp only [segmentsOf, List.mem_singleton] at member
      simp [member]
  | cons c rest inductionHypothesis =>
      have other {found : List Char}
          (isOther : found ∈ (segmentsOf rest).1 :: (segmentsOf rest).2) :
          found ⊆ c :: rest :=
        List.subset_cons_of_subset c (inductionHypothesis isOther)
      simp only [segmentsOf] at member
      split at member
      · rcases List.mem_cons.mp member with rfl | later
        · exact List.nil_subset _
        · exact other later
      · rcases List.mem_cons.mp member with rfl | later
        · exact List.cons_subset_cons c (inductionHypothesis (by simp))
        · exact other (List.mem_cons_of_mem _ later)

/-- The lexicon has forms for each solid name. -/
theorem exists_lexiconInflection?
    {name : String}
    (solid : IsSolid name) :
    ∃ forms, lexiconInflection? name = some forms := by
  have lastSolid :
      AreSolid (((segmentsOf name.toList).1 :: (segmentsOf name.toList).2).getLast?.getD []) := by
    rw [List.getLast?_eq_some_getLast (List.cons_ne_nil _ _)]
    exact solid.areSolid.of_subset (subset_of_mem_segmentsOf (List.getLast_mem _))
  unfold lexiconInflection?
  dsimp only
  split
  · exact ⟨_, rfl⟩
  · next nonempty =>
      obtain ⟨forms, inflects⟩ :=
        exists_inflectWord lastSolid.lowerChars (by simpa using nonempty)
      rw [inflects]
      exact ⟨_, rfl⟩

/-- Any pluralizer has forms for a solid name. -/
theorem exists_inflection
    {name : String}
    (solid : IsSolid name)
    (pluralizer : Pluralizer) :
    ∃ inflection, pluralizer.inflection name = .ok inflection := by
  cases pluralizer with
  | suffix =>
      exact ⟨_, rfl⟩
  | inflect =>
      obtain ⟨forms, found⟩ := exists_lexiconInflection? solid
      exact ⟨forms, by simp [Pluralizer.inflection, found]⟩

/-- A solid name has forms, by any pluralizer and with any overrides. -/
theorem exists_derive
    {name : String}
    (solid : IsSolid name)
    (overrides : Overrides)
    (pluralizer : Pluralizer) :
    ∃ forms, NameForms.derive name overrides pluralizer = .ok forms := by
  obtain ⟨inflection, inflects⟩ := exists_inflection solid pluralizer
  refine ⟨NameForms.ofInflection name ((overrides.find? name).getD inflection), ?_⟩
  rw [NameForms.derive, if_neg solid.ne_empty, inflects]
  rfl

end Tablewright.Naming
