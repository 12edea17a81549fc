import Tablewright.Proofs.Schema.Keeping.Statement
import Tablewright.Proofs.Text.Solid

/-!
# Spellings of words

The words among the tokens of a text are solid: each has at least one character, and none of its
characters is white space. So the tables of a text have solid names.
-/

namespace Tablewright.Schema

open Named (IsNamed)
open Text (AreSolid IsSolid isBlank)

/-- No part of a name is white space. -/
theorem isBlank_of_isNamePart
    {c : Char}
    (part : isNamePart c = true) :
    isBlank c = false := by
  have late : c ≠ '\u2028' ∧ c ≠ '\u2029' := by
    constructor <;> rintro rfl <;> revert part <;> decide
  have lateCodes : c.toNat ≠ 0x2028 ∧ c.toNat ≠ 0x2029 := by
    refine ⟨fun same => late.1 ?_, fun same => late.2 ?_⟩ <;>
      rw [← Char.ofNat_toNat c, same]
  simp only [isNamePart, isSpace, spaceSpans, Text.Span.anyContains, Text.Span.contains,
    List.any_cons, List.any_nil, Bool.and_eq_true, Bool.not_eq_true', Bool.or_eq_false_iff,
    Bool.and_eq_false_iff, decide_eq_true_eq, decide_eq_false_iff_not, and_true] at part
  simp only [isBlank, Text.blankSpans, Text.Span.anyContains, Text.Span.contains, List.any_cons,
    List.any_nil, Bool.or_eq_false_iff, Bool.and_eq_false_iff, decide_eq_false_iff_not, and_true]
  omega

theorem isBlank_of_isHexDigit
    {c : Char}
    (digit : isHexDigit c = true) :
    isBlank c = false := by
  have early : c.toNat < 128 := by
    simp only [isHexDigit, Char.isDigit, Bool.or_eq_true, Bool.and_eq_true, decide_eq_true_eq,
      UInt32.le_iff_toNat_le, Char.le_def] at digit
    change c.val.toNat < 128
    rcases digit with (⟨-, below⟩ | ⟨-, below⟩) | ⟨-, below⟩ <;>
      exact Nat.lt_of_le_of_lt below (by decide)
  have known : isHexDigit c = true → isBlank c = false :=
    Text.of_ascii_table early (by decide +kernel)
  exact known digit

/-- Hexadecimal digits within an escape make a solid part of a name. -/
theorem areSolid_digits
    {digits : List Char}
    (hexadecimal : ∀ c ∈ digits, isHexDigit c = true) :
    AreSolid (['\\', 'u'] ++ digits) ∧ AreSolid (['\\', 'u', '\x7b'] ++ digits ++ ['\x7d']) := by
  have solid : AreSolid digits := fun c member =>
    isBlank_of_isHexDigit (hexadecimal c member)
  have opening : AreSolid ['\\', 'u', '\x7b'] := by
    decide
  have closing : AreSolid ['\x7d'] := by
    decide
  exact ⟨(opening.of_subset (by simp)).append solid, (opening.append solid).append closing⟩

/-- An escape is not empty, and no character of it is white space. -/
theorem areSolid_escape
    {text part more : List Char}
    (escape : escapeInName? text = some (part, more)) :
    part ≠ [] ∧ AreSolid part := by
  unfold escapeInName? at escape
  split at escape
  · next rest =>
      dsimp only at escape
      split at escape
      · cases escape
        refine ⟨by simp, (areSolid_digits ?_).2⟩
        exact List.all_eq_true.mp List.all_takeWhile
      · cases escape
  · next a b c d rest =>
      split at escape
      · next digits =>
          cases escape
          simp only [Bool.and_eq_true] at digits
          exact ⟨by simp, (areSolid_digits (by simp [digits])).1⟩
      · cases escape
  · cases escape

/-- The rest of a name holds no white space. -/
theorem areSolid_nameRest
    (fuel : Nat)
    (text : List Char) :
    AreSolid (nameRest fuel text).1 := by
  fun_induction nameRest fuel text with
  | case1 | case2 | case5 =>
      intro c member
      cases member
  | case3 fuel c rest part name after others inductionHypothesis =>
      rw [others] at inductionHypothesis
      exact List.forall_mem_cons.mpr ⟨isBlank_of_isNamePart part, inductionHypothesis⟩
  | case4 fuel c rest notPart part more escape name after others inductionHypothesis =>
      rw [others] at inductionHypothesis
      exact (areSolid_escape escape).2.append inductionHypothesis

/-- A name has at least one character, and none is white space. -/
theorem areSolid_nameAtStart
    {text name after : List Char}
    (starts : nameAtStart? text = some (name, after)) :
    name ≠ [] ∧ AreSolid name := by
  unfold nameAtStart? at starts
  split at starts
  · cases starts
  · next c rest =>
      split at starts
      · next begins =>
          have named : nameRest (rest.length + 1) (c :: rest) = (name, after) :=
            Option.some.inj starts
          refine ⟨?_, by simpa [named] using areSolid_nameRest (rest.length + 1) (c :: rest)⟩
          rw [nameRest] at named
          split at named
          · cases named
            exact List.cons_ne_nil _ _
          · next notPart =>
              split at named
              · next part more escape =>
                  cases named
                  exact List.append_ne_nil_of_left_ne_nil (areSolid_escape escape).1 _
              · next noEscape =>
                  simp [isNameStart, notPart, noEscape] at begins
      · cases starts

/-- A lexeme that is a word is the name that the text begins with. -/
theorem nameAtStart?_of_lexeme
    {state : LexicalState}
    {c : Char}
    {rest : List Char}
    {spelling : String}
    (word : (lexeme state c rest).kind = .word spelling) :
    ∃ name after,
      nameAtStart? (c :: rest) = some (name, after) ∧ spelling = String.ofList name := by
  have noSign : (signLexeme state.insertions c rest).kind ≠ .word spelling := by
    unfold signLexeme
    split <;> simp
  have noTemplate {insertions : List Nat} {closed opened : TokenKind} {text : List Char}
      (notClosed : closed ≠ .word spelling)
      (notOpened : opened ≠ .word spelling) :
      (templateLexeme insertions closed opened text).kind ≠ .word spelling := by
    unfold templateLexeme
    split <;> simp [notClosed, notOpened]
  unfold lexeme at word
  dsimp only at word
  split at word
  · next name after starts =>
      cases word
      exact ⟨name, after, starts, rfl⟩
  · -- Nothing but a name is a word: each other beginning of a text in turn.
    split at word
    · cases word
    · split at word
      · split at word <;> cases word
      · split at word
        · exact absurd word (noTemplate (by simp) (by simp))
        · split at word
          · exact absurd word (noTemplate (by simp) (by simp))
          · split at word
            · split at word <;> cases word
            · split at word
              · split at word
                · cases word
                · exact absurd word noSign
              · exact absurd word noSign

/-- All words among tokens are solid. -/
theorem isSolid_tokensFrom
    (fuel : Nat)
    (state : LexicalState)
    (text : List Char) :
    IsNamed IsSolid (tokensFrom fuel state text) := by
  fun_induction tokensFrom fuel state text with
  | case1 | case3 =>
      exact Named.isNamed_nil
  | case2 =>
      refine Named.isNamed_cons.mpr ⟨?_, Named.isNamed_nil⟩
      intro spelling word
      cases word
  | case4 fuel state text _ c rest _ _ inductionHypothesis =>
      refine Named.isNamed_cons.mpr ⟨?_, inductionHypothesis⟩
      intro spelling word
      obtain ⟨name, after, starts, rfl⟩ := nameAtStart?_of_lexeme word
      obtain ⟨nonempty, solid⟩ := areSolid_nameAtStart starts
      exact ⟨by simpa using nonempty, by simpa using solid⟩

/-- The tables of a text have solid names. -/
theorem isSolid_of_mem_tablesOfText
    {text table : String}
    (listed : table ∈ tablesOfText text) :
    IsSolid table :=
  good_of_mem_tablesOfText (isSolid_tokensFrom _ _ _) table listed

end Tablewright.Schema
