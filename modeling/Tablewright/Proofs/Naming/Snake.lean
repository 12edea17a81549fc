import Tablewright.Proofs.Naming.Segments

/-!
# Snake case of singulars and plurals

For letters and digits the steps of snake case come to one rule: a low line stands before each
capital letter that follows a small letter or digit, or that begins a word with a small letter. By
this rule the `s` of a plural makes a word of a single letter before it. The main statement says
that the singular and the plural of a name have different low lines in just one case, that of a
singular with two single letters at its end.
-/

namespace Tablewright.Naming

/-! ## One rule for snake case -/

/-- Puts a low line before each capital letter that follows a small letter or digit, or begins a
word. -/
def spaced : List Char → List Char
  | [] => []
  | c :: rest =>
      if startsCapital rest && (isSmallOrDigit c || startsWord rest) then c :: '_' :: spaced rest
      else c :: spaced rest

/-- A text that begins with a word begins with a capital letter. -/
theorem startsCapital_of_startsWord
    {chars : List Char}
    (word : startsWord chars = true) :
    startsCapital chars = true := by
  match chars with
  | [] => cases word
  | [_] => cases word
  | u :: l :: _ =>
      rw [startsWord, Bool.and_eq_true] at word
      exact word.1

/-- Separating words leaves the first character where it is. -/
theorem startsCapital_separateWords
    (insideWord : Bool)
    (chars : List Char) :
    startsCapital (separateWords insideWord chars) = startsCapital chars := by
  cases chars with
  | nil =>
      rfl
  | cons c rest =>
      unfold separateWords
      split
      · rfl
      · split
        · cases rest <;> rfl
        · rfl

/-- Where there are no line ends, separating words and then capital letters is one rule, whether the
text goes on with a word or not. -/
theorem separateCapitals_separateWords
    {chars : List Char}
    (unbroken : '\n' ∉ chars)
    (insideWord : Bool) :
    separateCapitals (separateWords insideWord chars) = spaced chars := by
  fun_induction separateWords insideWord chars with
  | case1 =>
      rfl
  | case2 insideWord c rest passed inductionHypothesis =>
      have plain : isSmallOrDigit c = true := by
        rw [Bool.and_eq_true] at passed
        exact isSmallOrDigit_of_isSmall passed.2
      have restUnbroken : '\n' ∉ rest :=
        fun member => unbroken (List.mem_cons_of_mem _ member)
      simp [separateCapitals, spaced, startsCapital_separateWords, plain,
        inductionHypothesis restUnbroken]
  | case3 insideWord c notPassed word =>
      simp [startsWord] at word
  | case4 insideWord c notPassed u more word inductionHypothesis =>
      have moreUnbroken : '\n' ∉ more :=
        fun member => unbroken (List.mem_cons_of_mem _ (List.mem_cons_of_mem _ member))
      have atWord : startsWord (u :: more) = true := by
        rw [Bool.and_eq_true] at word
        exact word.2
      have capital : isCapital u = true :=
        startsCapital_of_startsWord atWord
      -- The second letter of the word is small, so no low line follows the first one.
      have smallNext : startsCapital more = false := by
        cases more with
        | nil =>
            rfl
        | cons l more =>
            rw [startsWord, Bool.and_eq_true] at atWord
            exact isCapital_eq_false (isSmallOrDigit_of_isSmall atWord.2)
      have atCapital : startsCapital (u :: more) = true :=
        capital
      have lowLine : isSmallOrDigit '_' = false ∧ isCapital '_' = false := by
        decide
      have lowLineFirst :
          startsCapital ('_' :: u :: separateWords true more) = false :=
        lowLine.2
      simp [separateCapitals, spaced, atWord, atCapital, lowLineFirst, lowLine.1, smallNext,
        isSmallOrDigit_eq_false capital, inductionHypothesis moreUnbroken]
  | case5 insideWord c rest notPassed noWord inductionHypothesis =>
      have restUnbroken : '\n' ∉ rest :=
        fun member => unbroken (List.mem_cons_of_mem _ member)
      have notLineEnd : c ≠ '\n' :=
        fun lineEnd => unbroken (lineEnd ▸ List.mem_cons_self)
      have notAtWord : startsWord rest = false := by
        simpa [notLineEnd] using noWord
      simp [separateCapitals, spaced, startsCapital_separateWords, notAtWord, Bool.and_comm,
        inductionHypothesis restUnbroken]

/-- Separating words makes no two low lines in a row. -/
theorem mergeLowLines_separateWords
    {chars : List Char}
    (free : '_' ∉ chars)
    (insideWord : Bool) :
    mergeLowLines (separateWords insideWord chars) = separateWords insideWord chars := by
  fun_induction separateWords insideWord chars with
  | case1 =>
      rfl
  | case2 insideWord c rest passed inductionHypothesis =>
      simp only [List.mem_cons, not_or] at free
      simp [mergeLowLines, Ne.symm free.1, inductionHypothesis free.2]
  | case3 insideWord c notPassed word =>
      simp [startsWord] at word
  | case4 insideWord c notPassed u more word inductionHypothesis =>
      simp only [List.mem_cons, not_or] at free
      obtain ⟨notFirst, notNext, notMore⟩ := free
      have single : startsLowLineCapital (u :: separateWords true more) = false := by
        cases separateWords true more <;> simp [startsLowLineCapital, Ne.symm notNext]
      simp [mergeLowLines, Ne.symm notFirst, Ne.symm notNext, single, inductionHypothesis notMore]
  | case5 insideWord c rest notPassed noWord inductionHypothesis =>
      simp only [List.mem_cons, not_or] at free
      simp [mergeLowLines, Ne.symm free.1, inductionHypothesis free.2]

/-- The rule adds nothing but low lines. -/
theorem mem_spaced
    {chars : List Char}
    {c : Char}
    (member : c ∈ spaced chars) :
    c ∈ chars ∨ c = '_' := by
  induction chars with
  | nil =>
      cases member
  | cons first rest inductionHypothesis =>
      rw [spaced] at member
      split at member <;> simp only [List.mem_cons] at member ⊢ <;> grind

/-- Snake case of letters and digits is the one rule, with all letters small. -/
theorem snakeChars_eq
    {chars : List Char}
    (plain : ∀ c ∈ chars, IsLetterOrDigit c) :
    snakeChars chars = (spaced chars).map Char.toLower := by
  have noLowLine : '_' ∉ chars :=
    fun member => (plain _ member).ne (by decide) rfl
  have unbroken : '\n' ∉ chars :=
    fun member => (plain _ member).ne (by decide) rfl
  have early : ∀ c ∈ spaced chars, c.toNat < 128 := by
    intro c member
    rcases mem_spaced member with inChars | rfl
    · exact (plain c inChars).toNat_lt
    · decide
  rw [snakeChars, mergeLowLines_separateWords noLowLine, separateCapitals_separateWords unbroken,
    Text.lowerChars_of_lt early]

/-! ## One more small letter -/

/-- Whether a text ends in a capital letter with no small letter or digit before it. -/
def endsInCapitals : List Char → Bool
  | [] => false
  | [_] => false
  | [c, u] => isCapital u && !isSmallOrDigit c
  | _ :: rest => endsInCapitals rest

/-- One more `s` adds to the low lines only where it makes a word of the last capital letter. -/
theorem spaced_append_s
    (chars : List Char) :
    (endsInCapitals chars = false →
      spaced (chars ++ ['s']) = spaced chars ++ ['s']) ∧
    (endsInCapitals chars = true →
      (spaced (chars ++ ['s'])).length = (spaced chars).length + 2) := by
  fun_induction endsInCapitals chars with
  | case1 =>
      simp [spaced, startsCapital]
  | case2 c =>
      simp [spaced, startsCapital, isCapital]
  | case3 c u =>
      have small : isSmall 's' = true ∧ isCapital 's' = false := by
        decide
      cases capital : isCapital u <;> cases plain : isSmallOrDigit c <;>
        simp [spaced, startsCapital, startsWord, capital, plain, small]
  | case4 c rest notOne notTwo inductionHypothesis =>
      match rest with
      | [] =>
          exact absurd rfl (notOne)
      | [u] =>
          exact absurd rfl (notTwo u)
      | u :: l :: rest =>
          -- What a low line before the next letter depends on is the same with and without `s`.
          have sameCapital :
              startsCapital (u :: l :: rest ++ ['s']) = startsCapital (u :: l :: rest) :=
            rfl
          have sameWord :
              startsWord (u :: l :: rest ++ ['s']) = startsWord (u :: l :: rest) :=
            rfl
          obtain ⟨noneAdded, oneAdded⟩ := inductionHypothesis
          rw [List.cons_append, spaced, spaced, sameCapital, sameWord]
          constructor
          · intro none
            rw [noneAdded none]
            split <;> rfl
          · intro one
            split <;> simp only [List.length_cons, oneAdded one]

/-- In snake case one more `s` is just that, if there are not two capitals at the end. -/
theorem snakeChars_append_s_iff
    {chars : List Char}
    (plain : ∀ c ∈ chars, IsLetterOrDigit c) :
    snakeChars (chars ++ ['s']) = snakeChars chars ++ ['s'] ↔ endsInCapitals chars = false := by
  have plainWithS : ∀ c ∈ chars ++ ['s'], IsLetterOrDigit c := by
    intro c member
    rcases List.mem_append.mp member with inChars | isS
    · exact plain c inChars
    · rw [List.mem_singleton.mp isS]
      exact Or.inr (by decide)
  rw [snakeChars_eq plain, snakeChars_eq plainWithS]
  cases ending : endsInCapitals chars with
  | false =>
      simp [(spaced_append_s chars).1 ending]
  | true =>
      have longer := (spaced_append_s chars).2 ending
      simp only [Bool.true_eq_false, iff_false]
      intro same
      have sameLength := congrArg List.length same
      simp only [List.length_map, List.length_append, List.length_singleton] at sameLength
      omega

/-- Where two characters are known at the end, they tell. -/
theorem endsInCapitals_append_pair
    (front : List Char)
    (c u : Char) :
    endsInCapitals (front ++ [c, u]) = (isCapital u && !isSmallOrDigit c) := by
  induction front with
  | nil =>
      rfl
  | cons first front inductionHypothesis =>
      match front with
      | [] =>
          rfl
      | [_] =>
          rfl
      | _ :: _ :: _ =>
          exact inductionHypothesis

/-- A text that ends in a small letter or digit does not end in capitals. -/
theorem endsInCapitals_append_plain
    (front : List Char)
    {c : Char}
    (plain : isSmallOrDigit c = true) :
    endsInCapitals (front ++ [c]) = false := by
  rcases List.eq_nil_or_concat front with rfl | ⟨front, before, rfl⟩
  · rfl
  · simp [endsInCapitals_append_pair, isCapital_eq_false plain]

/-! ## Singulars by the last letter -/

/-- What ends like a plural ends in `s`. -/
theorem eq_s_of_endsPlural
    {front : List Char}
    {c : Char}
    (plural : endsPlural (front ++ [c]) = true) :
    c = 's' := by
  by_cases isS : c = 's'
  · exact isS
  · simp [endsPlural, endsPluralReversed, isS] at plural

/-- The plural is the singular with one more `s`. -/
theorem suffixForms_snd
    (name : List Char) :
    (suffixForms name).2 = (suffixForms name).1 ++ ['s'] := by
  unfold suffixForms
  split
  next plural =>
    rcases List.eq_nil_or_concat name with rfl | ⟨front, last, rfl⟩
    · cases plural
    · rw [List.concat_eq_append] at plural ⊢
      simp [eq_s_of_endsPlural plural]
  next =>
    rfl

/-- The singular is made of characters of the name. -/
theorem mem_of_mem_suffixForms_fst
    {name : List Char}
    {c : Char}
    (member : c ∈ (suffixForms name).1) :
    c ∈ name := by
  unfold suffixForms at member
  split at member
  · exact List.dropLast_subset name member
  · exact member

/-- The singular of a name keeps the capital letter of its last segment, and no more of that segment
if there is no more of it than an `s`. -/
theorem exists_suffixForms_fst
    (front : List Char)
    (segment : Segment) :
    ∃ stem : List Char,
      (suffixForms (front ++ segment.capitalized)).1 = front ++ segment.capital :: stem ∧
      (∀ c ∈ stem, isSmallOrDigit c = true) ∧
      (stem = [] ↔ segment.rest = [] ∨ segment.rest = ['s']) := by
  have capitalNe : ∀ c, isCapital c = false → segment.capital ≠ c := by
    rintro c notCapital rfl
    rw [segment.isCapital_capital] at notCapital
    cases notCapital
  have plain := segment.rest_isSmallOrDigit
  rw [Segment.capitalized]
  rcases List.eq_nil_or_concat segment.rest with none | ⟨stem, last, some⟩
  · have noPlural : ¬ endsPlural (front ++ [segment.capital]) = true :=
      fun plural => capitalNe 's' (by decide) (eq_s_of_endsPlural plural)
    exact ⟨[], by simp [none, suffixForms, noPlural], by simp, by simp [none]⟩
  · rw [List.concat_eq_append] at some
    rw [some] at plain ⊢
    have shape :
        front ++ segment.capital :: (stem ++ [last]) =
          (front ++ segment.capital :: stem) ++ [last] := by
      simp
    by_cases plural : endsPlural (front ++ segment.capital :: (stem ++ [last])) = true
    · have lastIsS : last = 's' := by
        rw [shape] at plural
        exact eq_s_of_endsPlural plural
      refine ⟨stem, ?_, fun c member => plain c (by simp [member]), by simp [lastIsS]⟩
      rw [suffixForms, if_pos plural]
      dsimp only
      rw [shape, List.dropLast_concat]
    · refine ⟨stem ++ [last], by rw [suffixForms, if_neg plural], by simpa using plain, ?_⟩
      -- A capital letter and an `s` would have been a plural.
      have notOnlyS : stem ++ [last] ≠ ['s'] := by
        intro onlyS
        apply plural
        simp [onlyS, endsPlural, endsPluralReversed, capitalNe 's' (by decide),
          capitalNe 'u' (by decide), capitalNe 'i' (by decide)]
      simp [notOnlyS]

/-! ## Names that end in single letters -/

/-- Whether the last two segments of a name are single letters, but for an `s` that the last one may
have after its letter. -/
def SegmentedName.EndsInLetters
    (name : SegmentedName) : Prop :=
  ∃ (before : List Segment) (letter last : Segment),
    name.segments = before ++ [letter, last] ∧
    letter.rest = [] ∧
    (last.rest = [] ∨ last.rest = ['s'])

/-- What stands before the last segment ends in a capital letter if the segment there is a single
letter. -/
theorem endsInCapitals_flatMap_append
    (before : List Segment)
    {u : Char}
    (capital : isCapital u = true) :
    endsInCapitals (before.flatMap Segment.capitalized ++ [u]) = true ↔
      ∃ (front : List Segment) (letter : Segment),
        before = front ++ [letter] ∧ letter.rest = [] := by
  rcases List.eq_nil_or_concat before with rfl | ⟨front, letter, rfl⟩
  · simp [endsInCapitals]
  · have atEnd :
        endsInCapitals ((front ++ [letter]).flatMap Segment.capitalized ++ [u]) = true ↔
          letter.rest = [] := by
      rw [List.flatMap_append, List.flatMap_singleton, Segment.capitalized, List.append_assoc]
      rcases List.eq_nil_or_concat letter.rest with none | ⟨rest, c, some⟩
      · simp [none, endsInCapitals_append_pair, capital,
          isSmallOrDigit_eq_false letter.isCapital_capital]
      · rw [List.concat_eq_append] at some
        have plain : isSmallOrDigit c = true :=
          letter.rest_isSmallOrDigit c (by simp [some])
        have shape :
            front.flatMap Segment.capitalized ++ (letter.capital :: letter.rest ++ [u]) =
              (front.flatMap Segment.capitalized ++ letter.capital :: rest) ++ [c, u] := by
          simp [some]
        rw [shape, endsInCapitals_append_pair]
        simp [some, plain]
    rw [List.concat_eq_append, atEnd]
    constructor
    · intro single
      exact ⟨front, letter, rfl, single⟩
    · rintro ⟨_, _, same, single⟩
      obtain ⟨rfl, sameLetter⟩ := List.append_inj' same rfl
      rw [List.singleton_inj.mp sameLetter]
      exact single

/-- The singular of a name ends in two capital letters if the name ends in single letters. -/
theorem SegmentedName.endsInCapitals_singular_iff
    (name : SegmentedName) :
    endsInCapitals (suffixForms (pascalChars name.chars)).1 = true ↔ name.EndsInLetters := by
  obtain ⟨before, last, segments⟩ :
      ∃ before last, name.segments = before ++ [last] := by
    rcases List.eq_nil_or_concat name.segments with none | ⟨before, last, some⟩
    · cases none
    · exact ⟨before, last, by rw [some, List.concat_eq_append]⟩
  obtain ⟨stem, singular, plain, stemEmpty⟩ :=
    exists_suffixForms_fst (before.flatMap Segment.capitalized) last
  have pascalShape :
      pascalChars name.chars = before.flatMap Segment.capitalized ++ last.capitalized := by
    rw [name.pascalChars_chars, segments, List.flatMap_append, List.flatMap_singleton]
  rw [pascalShape, singular]
  have splits (front : List Segment) (letter final : Segment) :
      name.segments = front ++ [letter, final] ↔ before = front ++ [letter] ∧ last = final := by
    rw [segments]
    constructor
    · intro same
      have regrouped : before ++ [last] = (front ++ [letter]) ++ [final] := by
        simpa using same
      obtain ⟨sameBefore, sameLast⟩ := List.append_inj' regrouped rfl
      exact ⟨sameBefore, List.singleton_inj.mp sameLast⟩
    · rintro ⟨rfl, rfl⟩
      simp
  rcases List.eq_nil_or_concat stem with rfl | ⟨stem, c, rfl⟩
  · rw [endsInCapitals_flatMap_append before last.isCapital_capital]
    have lastShort := stemEmpty.mp rfl
    constructor
    · rintro ⟨front, letter, isBefore, single⟩
      exact ⟨front, letter, last, (splits front letter last).mpr ⟨isBefore, rfl⟩, single,
        lastShort⟩
    · rintro ⟨front, letter, final, same, single, -⟩
      exact ⟨front, letter, ((splits front letter final).mp same).1, single⟩
  · rw [List.concat_eq_append] at plain stemEmpty ⊢
    have notShort : ¬ (last.rest = [] ∨ last.rest = ['s']) := by
      rw [← stemEmpty]
      simp
    have noCapitals :
        endsInCapitals
          (before.flatMap Segment.capitalized ++ last.capital :: (stem ++ [c])) = false := by
      have ending :=
        endsInCapitals_append_plain
          (before.flatMap Segment.capitalized ++ last.capital :: stem) (plain c (by simp))
      simpa using ending
    rw [noCapitals]
    constructor
    · rintro ⟨⟩
    · rintro ⟨front, letter, final, same, -, short⟩
      obtain ⟨-, rfl⟩ := (splits front letter final).mp same
      exact absurd short notShort

/-- In Pascal case a name has nothing but letters and digits. -/
theorem SegmentedName.isLetterOrDigit_of_mem_pascalChars
    (name : SegmentedName) :
    ∀ c ∈ pascalChars name.chars, IsLetterOrDigit c := by
  intro c member
  rw [name.pascalChars_chars] at member
  obtain ⟨segment, -, inSegment⟩ := List.mem_flatMap.mp member
  exact segment.isLetterOrDigit_of_mem_capitalized inSegment

theorem SegmentedName.text_ne_empty
    (name : SegmentedName) :
    name.text ≠ "" := by
  intro empty
  have noChars : name.chars = [] := by
    simpa [text] using empty
  obtain ⟨first, others⟩ := name
  cases others <;> simp [chars, segments, Segment.chars] at noChars

/-- The last letter decides on a name without forms of its own. -/
theorem derive_of_free
    {raw : String}
    {overrides : Overrides}
    (nonempty : raw ≠ "")
    (free : overrides.find? raw = none) :
    NameForms.derive raw overrides .suffix =
      .ok (NameForms.ofInflection raw (suffixInflection (pascal raw))) := by
  rw [NameForms.derive, if_neg nonempty, free]
  rfl

/-- For a name without forms of its own, the snake case of the plural is that of the singular with
an `s` behind it, unless the name ends in single letters. -/
theorem snakePlural_eq_iff
    (name : SegmentedName)
    {overrides : Overrides}
    (free : overrides.find? name.text = none) :
    ∃ forms : NameForms,
      NameForms.derive name.text overrides .suffix = .ok forms ∧
      (forms.snakePlural = forms.snakeSingular ++ "s" ↔ ¬ name.EndsInLetters) := by
  let singular := (suffixForms (pascalChars name.chars)).1
  have plain : ∀ c ∈ singular, IsLetterOrDigit c := fun c member =>
    name.isLetterOrDigit_of_mem_pascalChars c (mem_of_mem_suffixForms_fst member)
  have inflection :
      suffixInflection (pascal name.text) =
        ⟨String.ofList singular, String.ofList (singular ++ ['s'])⟩ := by
    simp [suffixInflection, pascal, SegmentedName.text, suffixForms_snd, singular]
  have ends :
      snakeChars (singular ++ ['s']) = snakeChars singular ++ ['s'] ↔ ¬ name.EndsInLetters := by
    rw [snakeChars_append_s_iff plain, ← name.endsInCapitals_singular_iff, Bool.not_eq_true]
  refine ⟨_, derive_of_free name.text_ne_empty free, ?_⟩
  rw [← ends, inflection]
  simp only [NameForms.ofInflection, snake, String.toList_ofList]
  rw [← String.toList_inj]
  simp

theorem snakePlural_eq_of_two_words :
    ∃ (name : SegmentedName) (forms : NameForms),
      name.text = "blog_post" ∧
      Overrides.builtIn.find? name.text = none ∧
      NameForms.derive name.text Overrides.builtIn .suffix = .ok forms ∧
      forms.snakePlural = forms.snakeSingular ++ "s" := by
  let blog : Segment :=
    ⟨'b', ['l', 'o', 'g'], by decide, List.all_eq_true.mp (by decide)⟩
  let post : Segment :=
    ⟨'p', ['o', 's', 't'], by decide, List.all_eq_true.mp (by decide)⟩
  let name : SegmentedName := ⟨blog, [post]⟩
  have free : Overrides.builtIn.find? name.text = none := by
    decide
  have words : ¬ name.EndsInLetters := by
    rw [← name.endsInCapitals_singular_iff]
    decide
  obtain ⟨forms, derived, ends⟩ := snakePlural_eq_iff name free
  exact ⟨name, forms, by decide, free, derived, ends.mpr words⟩

/-- In the plural of a name of two letters a low line comes between them. -/
theorem snakePlural_ne_of_single_letters :
    ∃ (name : SegmentedName) (forms : NameForms),
      name.text = "a_b" ∧
      Overrides.builtIn.find? name.text = none ∧
      NameForms.derive name.text Overrides.builtIn .suffix = .ok forms ∧
      forms.snakeSingular = "ab" ∧
      forms.snakePlural = "a_bs" ∧
      forms.snakePlural ≠ forms.snakeSingular ++ "s" := by
  let a : Segment := ⟨'a', [], by decide, by simp⟩
  let b : Segment := ⟨'b', [], by decide, by simp⟩
  let name : SegmentedName := ⟨a, [b]⟩
  have free : Overrides.builtIn.find? name.text = none := by
    decide
  let forms : NameForms := ⟨"a_b", "aB", "AB", "AB", "ABs", "ab", "a_bs"⟩
  have formsOfName :
      NameForms.ofInflection name.text (suffixInflection (pascal name.text)) = forms := by
    decide +kernel
  have derived :
      NameForms.derive name.text Overrides.builtIn .suffix = .ok forms := by
    rw [derive_of_free name.text_ne_empty free, formsOfName]
  exact ⟨name, forms, by decide, free, derived, rfl, rfl, by decide⟩

end Tablewright.Naming
