import Tablewright.Proofs.Schema.Trivia
import Tablewright.Proofs.Text.Case
import Tablewright.Proofs.Text.Occurrence

/-!
# Symbols

Names, literals and signs as they are written, and that each of them is read as one token if what is
written after it cannot be taken for a part of it.
-/

namespace Tablewright.Schema

/-- Whether a name can begin with the character, as far as names are of ASCII. -/
def beginsIdentifier
    (c : Char) : Bool :=
  c.isAlpha || c == '_' || c == '$'

/-- Whether a name can go on with the character, as far as names are of ASCII. -/
def continuesIdentifier
    (c : Char) : Bool :=
  beginsIdentifier c || c.isDigit

/-- Whether the characters make a name of ASCII. -/
def areIdentifier : List Char → Bool
  | [] => false
  | first :: others => beginsIdentifier first && others.all continuesIdentifier

/-- A name of ASCII. -/
structure Identifier where
  spelling : String
  isIdentifier : areIdentifier spelling.toList = true

/-- A string in double quotes that holds nothing but characters that stand for themselves. -/
structure Literal where
  text : List Char
  isPlain : ∀ c ∈ text, c ≠ '"' ∧ c ≠ '\\' ∧ c ≠ '\n' ∧ c ≠ '\r'

/-- The signs of object types and of what is around them. -/
inductive Sign where
  | openBrace
  | closeBrace
  | openBracket
  | closeBracket
  | colon
  | questionMark
  | equals
  | bar
  | semicolon
  | comma
  deriving Repr, DecidableEq

/-- How the sign is written. -/
def Sign.char : Sign → Char
  | .openBrace => '\x7b'
  | .closeBrace => '\x7d'
  | .openBracket => '['
  | .closeBracket => ']'
  | .colon => ':'
  | .questionMark => '?'
  | .equals => '='
  | .bar => '|'
  | .semicolon => ';'
  | .comma => ','

/-- The spelling that the sign is read with. -/
def Sign.spelling : Sign → String
  | .openBrace => "\x7b"
  | .closeBrace => "\x7d"
  | .openBracket => "["
  | .closeBracket => "]"
  | .colon => ":"
  | .questionMark => "?"
  | .equals => "="
  | .bar => "|"
  | .semicolon => ";"
  | .comma => ","

/-- What is written as a whole and read as one token. -/
inductive Symbol where
  | word (name : Identifier)
  | literal (literal : Literal)
  | sign (sign : Sign)

namespace Symbol

/-- How the symbol is written. -/
def chars : Symbol → List Char
  | .word name => name.spelling.toList
  | .literal quoted => '"' :: (quoted.text ++ ['"'])
  | .sign mark => [mark.char]

/-- What the symbol is read as. -/
def kind : Symbol → TokenKind
  | .word name => .word name.spelling
  | .literal _ => .string
  | .sign mark => .sign mark.spelling

/-- Whether a character right after the symbol could be taken for a part of it. -/
def runsInto
    (c : Char) : Symbol → Bool
  | .word _ => isNamePart c || c == '\\'
  | .literal _ => false
  | .sign mark => longSigns.any fun long => [mark.char, c].isPrefixOf long.toList

end Symbol

/-! ## Names -/

/-- A character up to one of ASCII is of ASCII. -/
theorem toNat_lt_of_le
    {c last : Char}
    (isUpTo : c.val ≤ last.val)
    (isAscii : last.toNat < 128) :
    c.toNat < 128 :=
  Nat.lt_of_le_of_lt (UInt32.le_iff_toNat_le.mp isUpTo) isAscii

/-- The characters of identifiers are characters of ASCII. -/
theorem toNat_lt_of_continuesIdentifier
    {c : Char}
    (continues : continuesIdentifier c = true) :
    c.toNat < 128 := by
  simp only [continuesIdentifier, beginsIdentifier, Bool.or_eq_true, beq_iff_eq] at continues
  rcases continues with ((letter | rfl) | rfl) | digit
  · rcases Bool.or_eq_true_iff.mp letter with upper | lower
    · exact toNat_lt_of_le (of_decide_eq_true upper).2 (by decide)
    · exact toNat_lt_of_le (of_decide_eq_true (Bool.and_eq_true_iff.mp lower).2) (by decide)
  · decide
  · decide
  · exact toNat_lt_of_le (of_decide_eq_true (Bool.and_eq_true_iff.mp digit).2) (by decide)

/-- The characters of identifiers are parts of names, and those that begin identifiers begin names. -/
theorem isNamePart_of_continuesIdentifier
    {c : Char}
    (continues : continuesIdentifier c = true) :
    isNamePart c = true ∧ (beginsIdentifier c = true → isNameStart c = true) := by
  have known :
      continuesIdentifier c = true →
        isNamePart c = true ∧ (beginsIdentifier c = true → isNameStart c = true) :=
    Text.of_ascii_table (toNat_lt_of_continuesIdentifier continues) (by decide +kernel)
  exact known continues

/-- A name is read up to what cannot be a part of it. -/
theorem nameRest_append
    {name rest : List Char}
    (isName : ∀ c ∈ name, isNamePart c = true)
    (isEnd : ∀ c ∈ rest.head?, (isNamePart c || c == '\\') = false)
    {fuel : Nat}
    (enough : name.length ≤ fuel) :
    nameRest fuel (name ++ rest) = (name, rest) := by
  induction name generalizing fuel with
  | nil =>
      cases fuel with
      | zero =>
          rfl
      | succ fuel =>
          cases rest with
          | nil =>
              rfl
          | cons c rest =>
              obtain ⟨notPart, notEscape⟩ := Bool.or_eq_false_iff.mp (isEnd c rfl)
              have noBackslash : c ≠ '\\' := by
                simpa using notEscape
              simp [nameRest, notPart, escapeInName?, noBackslash]
  | cons c name inductionHypothesis =>
      obtain ⟨fuel, rfl⟩ := Nat.exists_eq_add_one.mpr (Nat.lt_of_lt_of_le (by simp) enough)
      have part : isNamePart c = true := isName c List.mem_cons_self
      have others :=
        inductionHypothesis (fun other member => isName other (List.mem_cons_of_mem _ member))
          (Nat.le_of_succ_le_succ enough)
      simp [nameRest, part, others]

/-- An identifier is the name at the beginning of a text that goes on with what cannot be a part of
it. -/
theorem nameAtStart?_identifier
    (name : Identifier)
    {rest : List Char}
    (isEnd : ∀ c ∈ rest.head?, (isNamePart c || c == '\\') = false) :
    nameAtStart? (name.spelling.toList ++ rest) = some (name.spelling.toList, rest) := by
  have isIdentifier := name.isIdentifier
  cases shape : name.spelling.toList with
  | nil =>
      rw [shape] at isIdentifier
      cases isIdentifier
  | cons first others =>
      rw [shape] at isIdentifier
      obtain ⟨begins, continues⟩ := Bool.and_eq_true_iff.mp isIdentifier
      have firstContinues : continuesIdentifier first = true := by
        simp [continuesIdentifier, begins]
      obtain ⟨firstPart, startsName⟩ := isNamePart_of_continuesIdentifier firstContinues
      have parts : ∀ c ∈ first :: others, isNamePart c = true := by
        intro c member
        rcases List.mem_cons.mp member with rfl | later
        · exact firstPart
        · exact (isNamePart_of_continuesIdentifier (List.all_eq_true.mp continues c later)).1
      have whole :
          nameRest (first :: others ++ rest).length (first :: others ++ rest) =
            (first :: others, rest) :=
        nameRest_append parts isEnd (by simp)
      have begun :
          nameAtStart? (first :: others ++ rest) =
            some (nameRest (first :: others ++ rest).length (first :: others ++ rest)) := by
        simp [nameAtStart?, startsName begins]
      exact begun.trans (congrArg some whole)

/-! ## Literals -/

/-- A plain string is read up to its closing quote. -/
theorem afterString?_literal
    {text : List Char}
    (isPlain : ∀ c ∈ text, c ≠ '"' ∧ c ≠ '\\' ∧ c ≠ '\n' ∧ c ≠ '\r')
    (rest : List Char) :
    afterString? '"' (text ++ '"' :: rest) = some rest := by
  induction text with
  | nil =>
      simp [afterString?]
  | cons c text inductionHypothesis =>
      obtain ⟨notQuote, notEscape, notNewLine, notReturn⟩ := isPlain c List.mem_cons_self
      have others :=
        inductionHypothesis fun other member => isPlain other (List.mem_cons_of_mem _ member)
      simp [afterString?, notQuote, notEscape, notNewLine, notReturn, others]

/-! ## Signs -/

/-- Signs of more than one character begin with two characters. -/
theorem exists_cons_cons_of_mem_longSigns
    {long : String}
    (isLong : long ∈ longSigns) :
    ∃ first second others, long.toList = first :: second :: others := by
  have lengths : ∀ long ∈ longSigns, 2 ≤ long.toList.length := by
    decide +kernel
  have length := lengths long isLong
  match long.toList, length with
  | first :: second :: others, _ => exact ⟨first, second, others, rfl⟩

/-- A sign is read by itself if what follows does not make a longer sign of it. -/
theorem signAtStart?_sign
    (sign : Sign)
    {rest : List Char}
    (isEnd : ∀ c ∈ rest.head?, (Symbol.sign sign).runsInto c = false) :
    signAtStart? (sign.char :: rest) = some (sign.spelling, rest) := by
  have noLong :
      (longSigns.findSome? fun long =>
        (long.toList.isPrefixOf? (sign.char :: rest)).map fun after => (long, after)) = none := by
    rw [List.findSome?_eq_none_iff]
    intro long isLong
    obtain ⟨first, second, others, shape⟩ := exists_cons_cons_of_mem_longSigns isLong
    rw [Option.map_eq_none_iff, Option.eq_none_iff_forall_ne_some]
    intro after isPrefix
    rw [Text.isPrefixOf?_eq_some_iff_append, shape] at isPrefix
    cases isPrefix
    have apart := List.any_eq_false.mp (isEnd second rfl) long isLong
    simp [shape] at apart
  have short : sign.char ∈ shortSigns := by
    cases sign <;> decide
  have spelled : String.singleton sign.char = sign.spelling := by
    cases sign <;> rfl
  simp [signAtStart?, noLong, short, spelled]

/-- A sign begins no name, no number, no string and no template. -/
theorem lexeme_sign
    (sign : Sign)
    {rest : List Char}
    (isEnd : ∀ c ∈ rest.head?, (Symbol.sign sign).runsInto c = false)
    (last? : Option TokenKind) :
    lexeme ⟨[], last?⟩ sign.char rest = ⟨(Symbol.sign sign).kind, [], rest⟩ := by
  have notName : nameAtStart? (sign.char :: rest) = none := by
    cases sign <;> rfl
  have notNumber : startsNumber (sign.char :: rest) = false := by
    cases sign <;> rfl
  have plain :
      sign.char ≠ '"' ∧ sign.char ≠ '\'' ∧ sign.char ≠ '`' ∧ sign.char ≠ '#' ∧
        sign.char ≠ '/' := by
    cases sign <;> decide
  simp [lexeme, notName, notNumber, plain, signLexeme, signAtStart?_sign sign isEnd,
    insertionsAfter, Symbol.kind]

/-! ## Symbols -/

/-- A symbol is read as one token if what follows cannot be taken for a part of it. -/
theorem lexeme_symbol
    {symbol : Symbol}
    {first : Char}
    {others rest : List Char}
    (shape : symbol.chars = first :: others)
    (isEnd : ∀ c ∈ rest.head?, symbol.runsInto c = false)
    (last? : Option TokenKind) :
    lexeme ⟨[], last?⟩ first (others ++ rest) = ⟨symbol.kind, [], rest⟩ := by
  cases symbol with
  | word name =>
      have whole := nameAtStart?_identifier name isEnd
      simp only [Symbol.chars] at shape
      rw [shape, List.cons_append] at whole
      simp [lexeme, whole, Symbol.kind, ← shape]
  | literal quoted =>
      cases shape
      have whole := afterString?_literal quoted.isPlain rest
      have notName : nameAtStart? ('"' :: (quoted.text ++ '"' :: rest)) = none := rfl
      have notNumber : startsNumber ('"' :: (quoted.text ++ '"' :: rest)) = false := rfl
      simp [lexeme, notName, notNumber, whole, Symbol.kind]
  | sign mark =>
      cases shape
      exact lexeme_sign mark isEnd last?

/-- A symbol begins neither like white space nor like a comment, nor like what names an
interpreter. -/
theorem Symbol.exists_chars_eq_cons
    (symbol : Symbol) :
    ∃ first others,
      symbol.chars = first :: others ∧ beginsTrivia first = false ∧ first ≠ '#' := by
  cases symbol with
  | word name =>
      have isIdentifier := name.isIdentifier
      cases shape : name.spelling.toList with
      | nil =>
          rw [shape] at isIdentifier
          cases isIdentifier
      | cons first others =>
          rw [shape] at isIdentifier
          obtain ⟨begins, -⟩ := Bool.and_eq_true_iff.mp isIdentifier
          have part : isNamePart first = true :=
            (isNamePart_of_continuesIdentifier (by simp [continuesIdentifier, begins])).1
          refine ⟨first, others, shape, ?_, ?_⟩
          · by_contra isTrivia
            have notPart := isNamePart_eq_false_of_beginsTrivia (by simpa using isTrivia)
            exact Bool.false_ne_true (notPart.symm.trans part)
          · rintro rfl
            revert part
            decide
  | literal quoted =>
      exact ⟨'"', _, rfl, rfl, by decide⟩
  | sign mark =>
      exact ⟨mark.char, [], rfl, by cases mark <;> rfl, by cases mark <;> decide⟩

/-- Neither white space nor a comment is taken for a part of the symbol before it. -/
theorem runsInto_eq_false_of_beginsTrivia
    (symbol : Symbol)
    {c : Char}
    (begins : beginsTrivia c = true) :
    symbol.runsInto c = false := by
  cases symbol with
  | word name =>
      have notPart := isNamePart_eq_false_of_beginsTrivia begins
      have notEscape : c ≠ '\\' := by
        rintro rfl
        revert begins
        decide
      simp [Symbol.runsInto, notPart, notEscape]
  | literal quoted =>
      rfl
  | sign mark =>
      have seconds :
          (longSigns.all fun long => !(long.toList.tail.head?.any beginsTrivia)) = true := by
        decide +kernel
      refine List.any_eq_false.mpr fun long isLong => ?_
      obtain ⟨first, second, others, shape⟩ := exists_cons_cons_of_mem_longSigns isLong
      have isOther : beginsTrivia second = false := by
        simpa [shape] using List.all_eq_true.mp seconds long isLong
      have differs : c ≠ second := by
        rintro rfl
        exact Bool.false_ne_true (isOther.symm.trans begins)
      simp [shape, differs]

/-- A symbol is the next token of a text, whatever white space and comments stand before it. -/
theorem tokensFrom_symbol
    (before : List Trivia)
    {symbol : Symbol}
    {rest : List Char}
    (isEnd : ∀ c ∈ rest.head?, symbol.runsInto c = false)
    (fuel : Nat)
    (last? : Option TokenKind) :
    tokensFrom (fuel + 1) ⟨[], last?⟩
        (before.flatMap Trivia.chars ++ (symbol.chars ++ rest)) =
      ⟨symbol.kind, before.any Trivia.breaksLine⟩ ::
        tokensFrom fuel ⟨[], some symbol.kind⟩ rest := by
  obtain ⟨first, others, shape, notTrivia, -⟩ := symbol.exists_chars_eq_cons
  have read := lexeme_symbol shape isEnd last?
  simp [tokensFrom, skip_flatMap_chars, shape, skip_of_not_beginsTrivia notTrivia, read]

/-- White space and comments at the end of a text are no token. -/
theorem tokensFrom_trivia
    (trivia : List Trivia)
    (fuel : Nat)
    (state : LexicalState) :
    tokensFrom fuel state (trivia.flatMap Trivia.chars) = [] := by
  cases fuel with
  | zero =>
      rfl
  | succ fuel =>
      have passed := skip_flatMap_chars trivia false []
      rw [List.append_nil] at passed
      simp [tokensFrom, passed, skip]

end Tablewright.Schema
