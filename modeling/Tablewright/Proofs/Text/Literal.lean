import Mathlib.Algebra.Group.Nat.Defs
import Mathlib.Logic.Function.Basic
import Tablewright.Document.Property
import Tablewright.Text.Lines
import Tablewright.Text.Quoted

/-!
# Reading quoted texts

A reader of the literals that quoted texts are, by the rules of the generated language: what stands
between two equal quotes, with escapes for quotes, the backslash, three blanks and code points. The
main statement says that reading undoes quoting, whatever follows the literal, so two texts never
have the same literal.
-/

namespace Tablewright.Text

open Document (hexValue?)

/-! ## The reader -/

/-- Where in a literal the reader is. -/
inductive LiteralState where
  | plain
  /-- Behind a backslash. -/
  | escape
  /-- In the digits of a code point, with the number that they make so far and the count of those
  that follow the next one. -/
  | code (further number : Nat)
  deriving Repr, DecidableEq

/-- The character that a letter or sign behind a backslash stands for. -/
def namedEscape? : Char → Option Char
  | '\\' => some '\\'
  | '\'' => some '\''
  | '"' => some '"'
  | 'n' => some '\n'
  | 'r' => some '\r'
  | 't' => some '\t'
  | _ => none

/-- The count of digits that follow the first one, for the letters behind a backslash that announce
a code point. -/
def furtherDigits? : Char → Option Nat
  | 'x' => some 1
  | 'u' => some 3
  | 'U' => some 7
  | _ => none

/-- The character of a code point, if there is one. -/
def charOfCode?
    (code : Nat) : Option Char :=
  if code.isValidChar then some (Char.ofNat code) else none

/-- A character before a text that was read, with what follows the text. -/
def beforeRead
    (c : Char)
    (read : List Char × List Char) : List Char × List Char :=
  (c :: read.1, read.2)

/-- Reads the text of a literal up to the closing quote, with what follows it. A line that ends in the
literal and an escape of another kind are refused. -/
def readText?
    (quote : Char) : LiteralState → List Char → Option (List Char × List Char)
  | _, [] => none
  | .plain, c :: rest =>
      if c = quote then some ([], rest)
      else if c = '\n' ∨ c = '\r' then none
      else if c = '\\' then readText? quote .escape rest
      else (readText? quote .plain rest).map (beforeRead c)
  | .escape, c :: rest =>
      match namedEscape? c, furtherDigits? c with
      | some named, _ => (readText? quote .plain rest).map (beforeRead named)
      | none, some further => readText? quote (.code further 0) rest
      | none, none => none
  | .code further number, c :: rest =>
      match hexValue? c, further with
      | some digit, further + 1 => readText? quote (.code further (16 * number + digit)) rest
      | some digit, 0 =>
          match charOfCode? (16 * number + digit) with
          | some coded => (readText? quote .plain rest).map (beforeRead coded)
          | none => none
      | none, _ => none

/-- Reads the literal that a text begins with. Three quotes in a row open a literal of another kind,
which is refused. -/
def readLiteral? : List Char → Option (List Char × List Char)
  | [] => none
  | quote :: rest =>
      if quote ≠ '\'' ∧ quote ≠ '"' then none
      else if [quote, quote].isPrefixOf rest then none
      else readText? quote .plain rest

/-! ## Code points -/

theorem hexValue?_hexDigit :
    ∀ digit < 16, hexValue? (hexDigit digit) = some digit := by
  decide

/-- Digits give the number that they are digits of, less what they cut off, behind the number that
was read before them. -/
theorem readText?_hexDigits
    (quote : Char)
    (width further number code : Nat)
    (rest : List Char) :
    readText? quote (.code (further + width) number) (hexDigits width code ++ rest) =
      readText? quote (.code further (number * 16 ^ width + code % 16 ^ width)) rest := by
  induction width generalizing further code rest with
  | zero =>
      simp [hexDigits, Nat.mod_one]
  | succ width inductionHypothesis =>
      have value :
          16 * (number * 16 ^ width + code / 16 % 16 ^ width) + code % 16 =
            number * 16 ^ (width + 1) + code % 16 ^ (width + 1) := by
        rw [Nat.pow_succ', Nat.mod_mul, Nat.mul_add, Nat.mul_left_comm]
        omega
      have digit := hexValue?_hexDigit (code % 16) (Nat.mod_lt code (by decide))
      have oneMore : further + (width + 1) = further + 1 + width := by
        omega
      rw [hexDigits, List.append_assoc, List.singleton_append, oneMore, inductionHypothesis, ← value]
      simp [readText?, digit]

theorem charOfCode?_toNat
    (c : Char) :
    charOfCode? c.toNat = some c := by
  have valid : c.toNat.isValidChar :=
    c.valid
  rw [charOfCode?, if_pos valid, Char.ofNat_toNat]

/-- All digits of a code point give its character. -/
theorem readText?_code
    (quote c : Char)
    {further : Nat}
    (fits : c.toNat < 16 ^ (further + 1))
    (rest : List Char) :
    readText? quote (.code further 0) (hexDigits (further + 1) c.toNat ++ rest) =
      (readText? quote .plain rest).map (beforeRead c) := by
  have high : c.toNat / 16 < 16 ^ further := by
    rw [Nat.pow_succ'] at fits
    exact Nat.div_lt_of_lt_mul fits
  have digit := hexValue?_hexDigit (c.toNat % 16) (Nat.mod_lt c.toNat (by decide))
  have shape := readText?_hexDigits quote further 0 0 (c.toNat / 16)
    (hexDigit (c.toNat % 16) :: rest)
  rw [Nat.zero_add, Nat.zero_mul, Nat.zero_add, Nat.mod_eq_of_lt high] at shape
  rw [hexDigits, List.append_assoc, List.singleton_append, shape]
  simp [readText?, digit, Nat.div_add_mod, charOfCode?_toNat]

/-- A code point in the shortest of three widths is read back. -/
theorem readText?_escapeCode
    {quote : Char}
    (noQuote : quote ≠ '\\')
    (c : Char)
    (rest : List Char) :
    readText? quote .plain (escapeCode c.toNat ++ rest) =
      (readText? quote .plain rest).map (beforeRead c) := by
  have largest : c.toNat < 0x110000 := by
    have valid : c.toNat.isValidChar :=
      c.valid
    unfold Nat.isValidChar at valid
    omega
  unfold escapeCode
  split
  · next isShort =>
      have short : c.toNat < 16 ^ (1 + 1) :=
        isShort
      simpa [readText?, noQuote.symm, namedEscape?, furtherDigits?] using
        readText?_code quote c short rest
  · split
    · next isMedium =>
        have medium : c.toNat < 16 ^ (3 + 1) :=
          isMedium
        simpa [readText?, noQuote.symm, namedEscape?, furtherDigits?] using
          readText?_code quote c medium rest
    · have long : c.toNat < 16 ^ (7 + 1) := by
        omega
      simpa [readText?, noQuote.symm, namedEscape?, furtherDigits?] using
        readText?_code quote c long rest

/-! ## Texts -/

/-- A quote that a literal may have. -/
def IsQuote
    (quote : Char) : Prop :=
  quote = '\'' ∨ quote = '"'

theorem isQuote_quoteFor
    (chars : List Char) :
    IsQuote (quoteFor chars) := by
  unfold quoteFor
  split
  · exact Or.inr rfl
  · exact Or.inl rfl

/-- Each character is read back from what stands for it in a literal. -/
theorem readText?_escapeChar
    {quote : Char}
    (isQuote : IsQuote quote)
    (c : Char)
    (rest : List Char) :
    readText? quote .plain (escapeChar quote c ++ rest) =
      (readText? quote .plain rest).map (beforeRead c) := by
  have noQuote : '\\' ≠ quote := by
    rcases isQuote with rfl | rfl <;> decide
  unfold escapeChar
  split
  · next isSign =>
      have named : namedEscape? c = some c := by
        rcases isSign with rfl | rfl
        · rcases isQuote with rfl | rfl <;> rfl
        · rfl
      simp [readText?, noQuote, named]
  · next noSign =>
      obtain ⟨otherQuote, noBackslash⟩ := not_or.mp noSign
      split
      · next isTab =>
          simp [readText?, noQuote, isTab, namedEscape?]
      split
      · next isLineFeed =>
          simp [readText?, noQuote, isLineFeed, namedEscape?]
      split
      · next isReturn =>
          simp [readText?, noQuote, isReturn, namedEscape?]
      split
      · next noLineFeed noReturn _ =>
          simp [readText?, otherQuote, noBackslash, noLineFeed, noReturn]
      · exact readText?_escapeCode noQuote.symm c rest

/-- A text is read back from what stands for its characters, up to the closing quote. -/
theorem readText?_flatMap_escapeChar
    {quote : Char}
    (isQuote : IsQuote quote)
    (chars after : List Char) :
    readText? quote .plain (chars.flatMap (escapeChar quote) ++ quote :: after) =
      some (chars, after) := by
  induction chars with
  | nil =>
      simp [readText?]
  | cons c chars inductionHypothesis =>
      rw [List.flatMap_cons, List.append_assoc, readText?_escapeChar isQuote, inductionHypothesis]
      rfl

/-- No character stands in a literal for itself as the quote. -/
theorem head?_escapeChar_ne
    {quote : Char}
    (isQuote : IsQuote quote)
    (c : Char)
    (rest : List Char) :
    (escapeChar quote c ++ rest).head? ≠ some quote := by
  have noQuote : '\\' ≠ quote := by
    rcases isQuote with rfl | rfl <;> decide
  unfold escapeChar escapeCode
  grind

/-- Reading undoes quoting, if no quote follows an empty literal. -/
theorem readLiteral?_quoteChars
    (chars : List Char)
    {after : List Char}
    (apart : after.head? ≠ some '\'') :
    readLiteral? (quoteChars chars ++ after) = some (chars, after) := by
  have isQuote := isQuote_quoteFor chars
  have noLongLiteral :
      ¬ [quoteFor chars, quoteFor chars].isPrefixOf
        (chars.flatMap (escapeChar (quoteFor chars)) ++ quoteFor chars :: after) = true := by
    cases chars with
    | nil =>
        intro isPrefix
        apply apart
        cases after with
        | nil =>
            simp [quoteFor] at isPrefix
        | cons c after =>
            have isQuoteToo : '\'' = c := by
              simpa [quoteFor] using isPrefix
            rw [← isQuoteToo]
            rfl
    | cons c chars =>
        intro isPrefix
        obtain ⟨others, shape⟩ := List.isPrefixOf_iff_prefix.mp isPrefix
        rw [List.flatMap_cons, List.append_assoc] at shape
        apply head?_escapeChar_ne isQuote c
        rw [← shape]
        rfl
  have noOther : ¬ (quoteFor chars ≠ '\'' ∧ quoteFor chars ≠ '"') := by
    rintro ⟨noApostrophe, noQuotationMark⟩
    exact isQuote.elim noApostrophe noQuotationMark
  rw [quoteChars, List.append_assoc, List.cons_append, List.singleton_append, readLiteral?, if_neg noOther,
    if_neg noLongLiteral, readText?_flatMap_escapeChar isQuote]

/-! ## Lines -/

/-- No character that can be shown as it is ends a line. -/
theorem isLineEnd_of_isPrintable
    {c : Char}
    (printable : isPrintable c = true) :
    isLineEnd c = false := by
  let lineEnds : List Char :=
    ['\n', '\r', '\x0b', '\x0c', '\x1c', '\x1d', '\x1e', '\u0085', '\u2028', '\u2029']
  have noneShown : lineEnds.any isPrintable = false := by
    decide +kernel
  rw [← Bool.not_eq_true]
  intro lineEnd
  have oneOf : c ∈ lineEnds := by
    simpa [lineEnds, isLineEnd, or_assoc] using lineEnd
  exact List.any_eq_false.mp noneShown c oneOf printable

theorem isLineEnd_of_mem_hexDigits
    {width code : Nat}
    {c : Char}
    (member : c ∈ hexDigits width code) :
    isLineEnd c = false := by
  have digits : ∀ digit < 16, isLineEnd (hexDigit digit) = false := by
    decide
  induction width generalizing code with
  | zero =>
      cases member
  | succ width inductionHypothesis =>
      rw [hexDigits, List.mem_append, List.mem_singleton] at member
      rcases member with high | rfl
      · exact inductionHypothesis high
      · exact digits _ (Nat.mod_lt _ (by decide))

/-- Nothing that stands for a character in a literal ends a line. -/
theorem isLineEnd_of_mem_escapeChar
    {quote : Char}
    (isQuote : IsQuote quote)
    {c d : Char}
    (member : d ∈ escapeChar quote c) :
    isLineEnd d = false := by
  have ofSigns {signs : List Char} (noEnds : signs.all (fun c => !isLineEnd c) = true)
      (inSigns : d ∈ signs) :
      isLineEnd d = false := by
    simpa using List.all_eq_true.mp noEnds d inSigns
  have ofCode {letter : Char} (noEnd : isLineEnd letter = false) {width code : Nat}
      (inCode : d ∈ '\\' :: letter :: hexDigits width code) :
      isLineEnd d = false := by
    rcases List.mem_cons.mp inCode with rfl | inRest
    · decide
    · rcases List.mem_cons.mp inRest with rfl | inDigits
      · exact noEnd
      · exact isLineEnd_of_mem_hexDigits inDigits
  unfold escapeChar escapeCode at member
  split at member
  · next isSign =>
      apply ofSigns _ member
      rcases isSign with rfl | rfl
      · rcases isQuote with rfl | rfl <;> decide
      · decide
  split at member
  · exact ofSigns (by decide) member
  split at member
  · exact ofSigns (by decide) member
  split at member
  · exact ofSigns (by decide) member
  split at member
  · next printable =>
      rw [List.mem_singleton.mp member]
      exact isLineEnd_of_isPrintable printable
  split at member
  · exact ofCode (by decide) member
  split at member
  · exact ofCode (by decide) member
  · exact ofCode (by decide) member

/-- No line ends in a literal. -/
theorem isLineEnd_of_mem_quoted
    {text : String}
    {c : Char}
    (member : c ∈ (quoted text).toList) :
    isLineEnd c = false := by
  have isQuote := isQuote_quoteFor text.toList
  have noEnd : isLineEnd (quoteFor text.toList) = false := by
    rcases isQuote with isApostrophe | isQuotationMark
    · rw [isApostrophe]
      decide
    · rw [isQuotationMark]
      decide
  rw [quoted, String.toList_ofList, quoteChars, List.cons_append] at member
  rcases List.mem_cons.mp member with rfl | inRest
  · exact noEnd
  · rcases List.mem_append.mp inRest with inText | isLast
    · obtain ⟨other, -, inEscape⟩ := List.mem_flatMap.mp inText
      exact isLineEnd_of_mem_escapeChar isQuote inEscape
    · rw [List.mem_singleton.mp isLast]
      exact noEnd

end Tablewright.Text
