import Tablewright.Proofs.Naming.Letters
import Tablewright.Proofs.Naming.Solid
import Tablewright.Proofs.Text.Caseless

/-!
# Characters that names keep

A character without case that is no low line passes from a name to its compounds and back. Line ends
are such characters, and moreover no rule of the lexicon takes one out of a word. So a singular that
no override gives holds the line ends of its name, unless the name is a compound with hyphens.
-/

namespace Tablewright.Naming

open Text (AreSolid IsCaseless isBlank)

variable {c : Char}

/-! ## Compounds -/

theorem mem_capitalize_iff
    (caseless : IsCaseless c)
    {segment : List Char} :
    c ∈ capitalize segment ↔ c ∈ segment := by
  cases segment with
  | nil =>
      rfl
  | cons first rest =>
      rw [capitalize, List.mem_append, caseless.mem_upperChar_iff, caseless.mem_lowerChars_iff,
        List.mem_cons, eq_comm]

/-- Segments hold the characters of a name, low lines apart. -/
theorem mem_segmentsOf_iff
    (noLowLine : c ≠ '_')
    (name : List Char) :
    (c ∈ (segmentsOf name).1 ∨ ∃ segment ∈ (segmentsOf name).2, c ∈ segment) ↔ c ∈ name := by
  induction name with
  | nil =>
      simp [segmentsOf]
  | cons first rest inductionHypothesis =>
      rw [List.mem_cons, ← inductionHypothesis]
      simp only [segmentsOf]
      split
      · next isLowLine =>
          simp [isLowLine, noLowLine]
      · simp [or_assoc]

theorem mem_pascalChars_iff
    (caseless : IsCaseless c)
    (noLowLine : c ≠ '_')
    {name : List Char} :
    c ∈ pascalChars name ↔ c ∈ name := by
  rw [← mem_segmentsOf_iff noLowLine name]
  simp [pascalChars, mem_capitalize_iff caseless]

theorem mem_snakeChars_iff
    (caseless : IsCaseless c)
    (noLowLine : c ≠ '_')
    {chars : List Char} :
    c ∈ snakeChars chars ↔ c ∈ chars := by
  obtain ⟨separated, isSnake, sameLetters⟩ := exists_snakeChars chars
  rw [isSnake, caseless.mem_lowerChars_iff, ← mem_letters_iff noLowLine, sameLetters,
    mem_letters_iff noLowLine]

/-! ## Rules of the lexicon -/

/-- A rule that takes no white space out of a word. -/
def KeepsBlanks
    (rule : List Char → Option (List Char)) : Prop :=
  ∀ word form c, rule word = some form → isBlank c = true → c ∈ word → c ∈ form

/-- Texts that are as long as what is dropped of them. -/
def AreLong
    (drop : Nat)
    (texts : List String) : Prop :=
  ∀ text ∈ texts, drop ≤ text.toList.length

instance
    (drop : Nat)
    (texts : List String) :
    Decidable (AreLong drop texts) :=
  inferInstanceAs (Decidable (∀ text ∈ texts, _))

section Endings

variable {cut drop : Nat}
variable {add : String}
variable {words : List String}

/-- Endings are as long as what the words gain. -/
theorem areLong_endingsOf
    (within : cut ≤ add.toList.length) :
    AreLong cut (endingsOf drop add words) := by
  intro ending member
  obtain ⟨word, -, rfl⟩ := List.mem_map.mp member
  rw [String.toList_ofList, replaceEnd, List.length_append]
  omega

theorem areSolid_of_mem_endingsOf
    (wordsSolid : ∀ word ∈ words, AreSolid word.toList)
    (addSolid : AreSolid add.toList) :
    ∀ ending ∈ endingsOf drop add words, AreSolid ending.toList := by
  intro ending member
  obtain ⟨word, isWord, rfl⟩ := List.mem_map.mp member
  rw [String.toList_ofList]
  exact areSolid_replaceEnd addSolid (wordsSolid word isWord)

end Endings

/-- White space is kept where an end without any is replaced. -/
theorem mem_replaceEnd
    {word ending : List Char}
    (isEnding : ending <:+ word)
    (solid : AreSolid ending)
    {drop : Nat}
    (within : drop ≤ ending.length)
    (add : String)
    (blank : isBlank c = true)
    (member : c ∈ word) :
    c ∈ replaceEnd drop add word := by
  obtain ⟨front, rfl⟩ := isEnding
  have inFront : c ∈ front := by
    rcases List.mem_append.mp member with inFront | inEnding
    · exact inFront
    · rw [solid c inEnding] at blank
      cases blank
  have keepsFront : front.length ≤ (front ++ ending).length - drop := by
    rw [List.length_append]
    omega
  have frontKept : front <+: (front ++ ending).take ((front ++ ending).length - drop) :=
    List.prefix_take_iff.mpr ⟨List.prefix_append front ending, keepsFront⟩
  exact List.mem_append_left _ (frontKept.mem inFront)

theorem lastWord_isSuffix
    (word : List Char) :
    lastWord word <:+ word := by
  rw [lastWord, ← List.reverse_prefix, List.reverse_reverse]
  exact List.takeWhile_prefix _

theorem areSolid_lastWord
    (word : List Char) :
    AreSolid (lastWord word) := by
  intro c member
  simpa using List.all_eq_true.mp List.all_takeWhile c (List.mem_reverse.mp member)

theorem keepsBlanks_endingRule
    {rule : EndingRule}
    (wordsLong : AreLong rule.drop rule.words)
    (endingsLong : AreLong rule.drop rule.endings)
    (endingsSolid : ∀ ending ∈ rule.endings, AreSolid ending.toList) :
    KeepsBlanks rule.apply? := by
  intro word form c applies blank member
  unfold EndingRule.apply? at applies
  split at applies
  · next listed =>
      cases applies
      rcases Bool.or_eq_true_iff.mp listed with isWord | hasEnding
      · rw [isListed, List.contains_iff_mem] at isWord
        have within := wordsLong _ isWord
        rw [String.toList_ofList] at within
        exact mem_replaceEnd (lastWord_isSuffix word) (areSolid_lastWord word) within rule.add blank
          member
      · obtain ⟨ending, isEnding, ends⟩ := List.any_eq_true.mp hasEnding
        exact mem_replaceEnd (List.isSuffixOf_iff_suffix.mp ends) (endingsSolid ending isEnding)
          (endingsLong ending isEnding) rule.add blank member
  · cases applies

theorem keepsBlanks_onlyIf
    {condition : List Char → Bool}
    {rule : List Char → Option (List Char)}
    (keeps : KeepsBlanks rule) :
    KeepsBlanks (onlyIf condition rule) := by
  intro word form c applies
  unfold onlyIf at applies
  split at applies
  · exact keeps word form c applies
  · cases applies

theorem keepsBlanks_forPairs
    (pairs : List (String × String)) :
    KeepsBlanks (forPairs pairs) := by
  intro word form c applies blank member
  obtain ⟨partner, -, rfl⟩ := Option.map_eq_some_iff.mp applies
  exact mem_replaceEnd (lastWord_isSuffix word) (areSolid_lastWord word) (Nat.le_refl _) partner blank member

theorem keepsBlanks_forWholePairs
    {pairs : List (String × String)}
    (wordsSolid : ∀ pair ∈ pairs, AreSolid pair.1.toList) :
    KeepsBlanks (forWholePairs pairs) := by
  intro word form c applies blank member
  obtain ⟨partner, found, -⟩ := Option.map_eq_some_iff.mp applies
  obtain ⟨before, after, shape, -⟩ := List.lookup_eq_some_iff.mp found
  have solid := wordsSolid (String.ofList word, partner) (by simp [shape])
  rw [String.toList_ofList] at solid
  rw [solid c member] at blank
  cases blank

theorem singularRules_keepBlanks :
    ∀ rule ∈ singularRules, KeepsBlanks rule := by
  simp only [singularRules, List.forall_mem_cons]
  repeat' apply And.intro
  all_goals first
    | exact keepsBlanks_forPairs _
    | exact keepsBlanks_forWholePairs (by decide +kernel)
    | first
      | refine keepsBlanks_endingRule ?_ ?_ ?_
      | refine keepsBlanks_onlyIf (keepsBlanks_endingRule ?_ ?_ ?_)
      all_goals first
        | exact areLong_endingsOf (by decide)
        | exact areSolid_of_mem_endingsOf (by decide +kernel) (by decide)
        | decide +kernel
    | simp

/-! ## Singulars -/

/-- White space that stands in a word stands in its singular, unless the word is a compound. -/
theorem mem_singularOf
    {word : List Char}
    (blank : isBlank c = true)
    (member : c ∈ word) :
    c ∈ (singularOf? word).getD word ∨ '-' ∈ (singularOf? word).getD word := by
  unfold singularOf?
  split
  · exact Or.inl member
  · split
    · exact Or.inl member
    · unfold inflectWith
      dsimp only
      split
      · exact Or.inr (by simp [joinCompound])
      · cases found : singularRules.findSome? (· word) with
        | none =>
            exact Or.inl member
        | some form =>
            obtain ⟨rule, isRule, applies⟩ := List.exists_of_findSome?_eq_some found
            exact Or.inl (singularRules_keepBlanks rule isRule word form c applies blank member)

/-- Words are made of the blanks before and after them and what is inside. -/
theorem mem_insideBlanks_cases
    {word : List Char}
    (member : c ∈ word) :
    c ∈ word.takeWhile isBlank ∨
      c ∈ Text.stripChars word ∨
      c ∈ (word.reverse.takeWhile isBlank).reverse := by
  rw [← List.takeWhile_append_dropWhile (p := isBlank) (l := word), List.mem_append] at member
  rcases member with before | behind
  · exact Or.inl before
  · have inBehind : c ∈ (word.dropWhile isBlank).reverse :=
      List.mem_reverse.mpr behind
    rw [← List.takeWhile_append_dropWhile (p := isBlank) (l := (word.dropWhile isBlank).reverse),
      List.mem_append] at inBehind
    rcases inBehind with after | inside
    · right
      right
      rw [List.mem_reverse, ← List.takeWhile_append_dropWhile (p := isBlank) (l := word),
        List.reverse_append, List.takeWhile_append]
      split
      · exact List.mem_append_left _ (List.takeWhile_subset _ after)
      · exact after
    · exact Or.inr (Or.inl (List.mem_reverse.mpr inside))

/-- A change inside blanks keeps what the change keeps. -/
theorem mem_insideBlanks
    {change : List Char → List Char}
    (keeps : ∀ word, c ∈ word → c ∈ change word ∨ '-' ∈ change word)
    {word form : List Char}
    (changes : insideBlanks change word = some form)
    (member : c ∈ word) :
    c ∈ form ∨ '-' ∈ form := by
  unfold insideBlanks at changes
  dsimp only at changes
  split at changes
  · split at changes
    · cases changes
      exact Or.inl member
    · cases changes
  · split at changes
    · cases changes
      exact Or.inl member
    · cases changes
      simp only [List.mem_append]
      rcases mem_insideBlanks_cases member with before | inside | after
      · exact Or.inl (Or.inl (Or.inl before))
      · rcases keeps _ inside with kept | joined
        · exact Or.inl (Or.inl (Or.inr kept))
        · exact Or.inr (Or.inl (Or.inr joined))
      · exact Or.inl (Or.inr after)

theorem mem_suffixForms_fst
    (noS : c ≠ 's')
    {name : List Char}
    (member : c ∈ name) :
    c ∈ (suffixForms name).1 := by
  have inPlural : c ∈ (suffixForms name).2 := by
    unfold suffixForms
    split
    · exact member
    · exact List.mem_append_left _ member
  rw [suffixForms_snd] at inPlural
  simpa [noS] using inPlural

/-- White space without case that stands in a name stands in its singular by the last letter. -/
theorem mem_singular_of_suffix
    (caseless : IsCaseless c)
    (blank : isBlank c = true)
    {raw : String}
    (member : c ∈ raw.toList) :
    c ∈ (suffixInflection (pascal raw)).singular.toList := by
  have noLowLine : c ≠ '_' :=
    Text.ne_of_isBlank blank (by decide)
  have noS : c ≠ 's' :=
    Text.ne_of_isBlank blank (by decide)
  have inPascal : c ∈ pascalChars raw.toList :=
    (mem_pascalChars_iff caseless noLowLine).mpr member
  simpa [suffixInflection, pascal] using mem_suffixForms_fst noS inPascal

/-- The last segment of a name or one of the others holds a character of the name. -/
theorem mem_dropLast_or_mem_getLast?
    (noLowLine : c ≠ '_')
    {name : List Char}
    (member : c ∈ name) :
    (∃ segment ∈ ((segmentsOf name).1 :: (segmentsOf name).2).dropLast, c ∈ segment) ∨
      c ∈ ((segmentsOf name).1 :: (segmentsOf name).2).getLast?.getD [] := by
  have inSegments := (mem_segmentsOf_iff noLowLine name).mpr member
  generalize shape : (segmentsOf name).1 :: (segmentsOf name).2 = segments
  obtain ⟨segment, isSegment, inSegment⟩ : ∃ segment ∈ segments, c ∈ segment := by
    simpa [← shape] using inSegments
  have nonempty : segments ≠ [] :=
    List.ne_nil_of_mem isSegment
  rw [← List.dropLast_concat_getLast nonempty, List.mem_append, List.mem_singleton] at isSegment
  rw [List.getLast?_eq_some_getLast nonempty, Option.getD_some]
  rcases isSegment with inFront | rfl
  · exact Or.inl ⟨segment, inFront, inSegment⟩
  · exact Or.inr inSegment

/-- White space without case that stands in a name stands in its singular by the lexicon, unless this
is a compound. -/
theorem mem_singular_of_lexicon
    (caseless : IsCaseless c)
    (blank : isBlank c = true)
    {raw : String}
    {forms : Inflection}
    (found : lexiconInflection? raw = some forms)
    (member : c ∈ raw.toList) :
    c ∈ forms.singular.toList ∨ '-' ∈ forms.singular.toList := by
  have noLowLine : c ≠ '_' :=
    Text.ne_of_isBlank blank (by decide)
  unfold lexiconInflection? at found
  dsimp only at found
  split at found
  · rw [← Option.some.inj found]
    exact Or.inl (mem_singular_of_suffix caseless blank member)
  · obtain ⟨⟨singular, plural⟩, inflects, isForms⟩ := Option.bind_eq_some_iff.mp found
    rw [← Option.some.inj isForms]
    simp only [String.toList_ofList, List.mem_append, List.mem_flatMap, mem_capitalize_iff caseless,
      mem_capitalize_iff Text.isCaseless_hyphen]
    rcases mem_dropLast_or_mem_getLast? noLowLine member with inFront | inLast
    · exact Or.inl (Or.inl inFront)
    · obtain ⟨form, changes, isRest⟩ := Option.bind_eq_some_iff.mp inflects
      obtain ⟨plural, -, isPair⟩ := Option.bind_eq_some_iff.mp isRest
      cases isPair
      have inWord := caseless.mem_lowerChars_iff.mpr inLast
      unfold orStandIn
      split
      · exact Or.inl (Or.inr inWord)
      · rcases mem_insideBlanks (fun word => mem_singularOf blank) changes inWord with
          kept | joined
        · exact Or.inl (Or.inr kept)
        · exact Or.inr (Or.inr joined)

/-- White space without case that stands in a name stands in the singular that a pluralizer gives,
unless this is a compound. -/
theorem mem_singular_of_inflection
    (caseless : IsCaseless c)
    (blank : isBlank c = true)
    {pluralizer : Pluralizer}
    {raw : String}
    {forms : Inflection}
    (inflects : pluralizer.inflection raw = .ok forms)
    (member : c ∈ raw.toList) :
    c ∈ forms.singular.toList ∨ '-' ∈ forms.singular.toList := by
  cases pluralizer with
  | suffix =>
      rw [← Except.ok.inj inflects]
      exact Or.inl (mem_singular_of_suffix caseless blank member)
  | inflect =>
      cases found : lexiconInflection? raw with
      | none =>
          simp [Pluralizer.inflection, found] at inflects
      | some singularAndPlural =>
          simp only [Pluralizer.inflection, found, Except.ok.injEq] at inflects
          rw [← inflects]
          exact mem_singular_of_lexicon caseless blank found member

/-- The forms of a name are made of those that an override or else the pluralizer gives. -/
theorem exists_inflection_of_derive
    {raw : String}
    {overrides : Overrides}
    {pluralizer : Pluralizer}
    {forms : NameForms}
    (derived : NameForms.derive raw overrides pluralizer = .ok forms) :
    ∃ inflection,
      pluralizer.inflection raw = .ok inflection ∧
        forms = NameForms.ofInflection raw ((overrides.find? raw).getD inflection) := by
  unfold NameForms.derive at derived
  split at derived
  · cases derived
  · cases inflects : pluralizer.inflection raw with
    | error error =>
        rw [inflects] at derived
        cases derived
    | ok inflection =>
        rw [inflects] at derived
        exact ⟨inflection, rfl, (Except.ok.inj derived).symm⟩

end Tablewright.Naming
