import Tablewright.Schema.Token
import Tablewright.Text.Span

/-!
# Reading tokens

A text is cut into tokens from left to right. White space and comments between tokens are passed
over. Of the signs that fit, the longest is taken, except that each closing angle bracket stands for
itself. A slash begins a regular expression where no operand precedes it.
-/

namespace Tablewright.Schema

open Text (Span)

/-- Code points that separate tokens, without those that break lines. -/
def spaceSpans : List Span :=
  [⟨0x9, 0x9⟩, ⟨0xB, 0xC⟩, ⟨0x20, 0x20⟩, ⟨0x85, 0x85⟩, ⟨0xA0, 0xA0⟩, ⟨0x1680, 0x1680⟩,
    ⟨0x2000, 0x200B⟩, ⟨0x202F, 0x202F⟩, ⟨0x205F, 0x2060⟩, ⟨0x3000, 0x3000⟩, ⟨0xFEFF, 0xFEFF⟩]

/-- Whether the character separates tokens within a line. -/
def isSpace
    (c : Char) : Bool :=
  Span.anyContains spaceSpans c

/-- Whether the character ends a line. -/
def isLineBreak
    (c : Char) : Bool :=
  c = '\n' || c = '\r' || c = '\u2028' || c = '\u2029'

/-- Whether the character can be part of a name. -/
def isNamePart
    (c : Char) : Bool :=
  32 ≤ c.toNat && !isSpace c && !isLineBreak c &&
    !(":;`\"'@#.,|^&<=>+-*/\\%?!~()[]\x7b\x7d".toList.contains c)

/-- Whether the character can begin a name. -/
def isNameStart
    (c : Char) : Bool :=
  isNamePart c && !c.isDigit

/-- Whether the character is a hexadecimal digit. -/
def isHexDigit
    (c : Char) : Bool :=
  c.isDigit || ('a' ≤ c && c ≤ 'f') || ('A' ≤ c && c ≤ 'F')

/-- The part of a name that an escape is, and what follows it. -/
def escapeInName? : List Char → Option (List Char × List Char)
  | '\\' :: 'u' :: '\x7b' :: rest =>
      let digits := rest.takeWhile isHexDigit
      match digits, rest.dropWhile isHexDigit with
      | _ :: _, '\x7d' :: after => some ('\\' :: 'u' :: '\x7b' :: digits ++ ['\x7d'], after)
      | _, _ => none
  | '\\' :: 'u' :: a :: b :: c :: d :: rest =>
      if isHexDigit a && isHexDigit b && isHexDigit c && isHexDigit d then
        some (['\\', 'u', a, b, c, d], rest)
      else none
  | _ => none

/-- The rest of a name and what follows it, in at most `fuel` steps. -/
def nameRest : Nat → List Char → List Char × List Char
  | 0, text => ([], text)
  | fuel + 1, text =>
      match text with
      | [] => ([], [])
      | c :: rest =>
          if isNamePart c then
            let (name, after) := nameRest fuel rest
            (c :: name, after)
          else
            match escapeInName? (c :: rest) with
            | some (part, more) =>
                let (name, after) := nameRest fuel more
                (part ++ name, after)
            | none => ([], c :: rest)

/-- The name at the beginning of a text, and what follows it. -/
def nameAtStart?
    (text : List Char) : Option (List Char × List Char) :=
  match text with
  | [] => none
  | c :: _ =>
      if isNameStart c || (escapeInName? text).isSome then some (nameRest text.length text)
      else none

/-- What is being passed over between tokens. -/
inductive Gap where
  | spaces
  | lineComment
  | blockComment
  deriving Repr, DecidableEq

/-- What lies before a token. -/
structure Skipped where
  lineBreak : Bool
  /-- Whether a comment was left open at the end of the text. -/
  openComment : Bool
  rest : List Char
  deriving Repr, DecidableEq

/-- Passes over spaces, line breaks and comments. -/
def skip
    (lineBreak : Bool) : Gap → List Char → Skipped
  | .blockComment, [] => ⟨lineBreak, true, []⟩
  | _, [] => ⟨lineBreak, false, []⟩
  | .blockComment, '*' :: '/' :: rest => skip lineBreak .spaces rest
  | .blockComment, c :: rest => skip (lineBreak || isLineBreak c) .blockComment rest
  | .lineComment, c :: rest =>
      if isLineBreak c then skip true .spaces rest else skip lineBreak .lineComment rest
  | .spaces, '/' :: '/' :: rest => skip lineBreak .lineComment rest
  | .spaces, '/' :: '*' :: rest => skip lineBreak .blockComment rest
  | .spaces, c :: rest =>
      if isLineBreak c then skip true .spaces rest
      else if isSpace c then skip lineBreak .spaces rest
      else ⟨lineBreak, false, c :: rest⟩

/-- What follows a string that `quote` ends, if it ends within its line. -/
def afterString?
    (quote : Char) : List Char → Option (List Char)
  | [] => none
  | '\\' :: _ :: rest => afterString? quote rest
  | c :: rest =>
      if c = quote then some rest
      else if c = '\n' || c = '\r' then none
      else afterString? quote rest

/-- The end of a piece of a template. -/
inductive TemplateEnd where
  | closed (rest : List Char)
  | insertion (rest : List Char)
  | missing
  deriving Repr, DecidableEq

/-- The end of the piece of a template that a text begins with. -/
def templateEnd : List Char → TemplateEnd
  | [] => .missing
  | '`' :: rest => .closed rest
  | '$' :: '\x7b' :: rest => .insertion rest
  | '\\' :: _ :: rest => templateEnd rest
  | _ :: rest => templateEnd rest

/-- What follows a regular expression, if it ends within its line. The flag says that a class of
characters is open, in which a slash stands for itself. -/
def afterRegex?
    (inClass : Bool) : List Char → Option (List Char)
  | [] => none
  | '\\' :: c :: rest => if isLineBreak c then none else afterRegex? inClass rest
  | '[' :: rest => afterRegex? true rest
  | ']' :: rest => afterRegex? false rest
  | '/' :: rest => if inClass then afterRegex? true rest else some (rest.dropWhile isNamePart)
  | c :: rest => if isLineBreak c then none else afterRegex? inClass rest

/-- The signs of two and more characters, the longer before the shorter. -/
def longSigns : List String :=
  ["...", "===", "!==", "**=", "&&=", "||=", "??=", "\x7b|", "|\x7d", "=>", "==", "!=", "++",
    "--", "&&", "||", "??", "?.", "**", "+=", "-=", "*=", "/=", "%=", "&=", "|=", "^="]

/-- The characters that are signs by themselves. -/
def shortSigns : List Char :=
  "\x7b\x7d()[]<>;,.:?=+-*/%&|^!~@".toList

/-- The sign at the beginning of a text, and what follows it. -/
def signAtStart?
    (text : List Char) : Option (String × List Char) :=
  match longSigns.findSome? fun sign =>
      (sign.toList.isPrefixOf? text).map fun rest => (sign, rest) with
  | some found => some found
  | none =>
      match text with
      | c :: rest => if shortSigns.contains c then some (String.singleton c, rest) else none
      | [] => none

/-- What follows a number. -/
def afterNumber : List Char → List Char
  | [] => []
  | c :: rest =>
      if c = 'e' || c = 'E' then
        match rest with
        | [] => []
        | d :: more => if d = '+' || d = '-' then afterNumber more else afterNumber (d :: more)
      else if c.isAlphanum || c = '_' || c = '.' then afterNumber rest
      else c :: rest

/-- What follows a hexadecimal, octal or binary number, or one without an exponent. -/
def afterPlainNumber
    (text : List Char) : List Char :=
  text.dropWhile fun c => c.isAlphanum || c = '_'

/-- Whether a text begins with a number. -/
def startsNumber : List Char → Bool
  | '.' :: c :: _ => c.isDigit
  | c :: _ => c.isDigit
  | [] => false

/-- What follows the number at the beginning of a text. -/
def numberRest : List Char → List Char
  | '0' :: c :: rest =>
      if c.isAlpha && c ≠ 'e' && c ≠ 'E' then afterPlainNumber rest else afterNumber (c :: rest)
  | text => afterNumber text

/-- Words after which an operand is expected. -/
def operandWords : List String :=
  ["return", "typeof", "case", "do", "else", "in", "of", "void", "delete", "throw", "new",
    "instanceof", "await", "yield"]

/-- Whether an operand ends with a token, so that a slash after it divides. -/
def endsOperand : TokenKind → Bool
  | .word spelling => !operandWords.contains spelling
  | .sign spelling => [")", "]", "\x7d", "++", "--"].contains spelling
  | .templateHead => false
  | .templateMiddle => false
  | .stray => false
  | _ => true

/-- How the cutting of a text stands. -/
structure LexicalState where
  /-- For each open insertion of a template, the number of braces open in it. -/
  insertions : List Nat
  last? : Option TokenKind
  deriving Repr, DecidableEq

/-- A token with the insertions that are open after it, and the rest of the text. -/
structure Lexeme where
  kind : TokenKind
  insertions : List Nat
  rest : List Char
  deriving Repr, DecidableEq

/-- The piece of a template that a text begins with. -/
def templateLexeme
    (insertions : List Nat)
    (whenClosed whenOpened : TokenKind)
    (text : List Char) : Lexeme :=
  match templateEnd text with
  | .closed rest => ⟨whenClosed, insertions, rest⟩
  | .insertion rest => ⟨whenOpened, 0 :: insertions, rest⟩
  | .missing => ⟨.stray, insertions, []⟩

/-- The open insertions after a sign. -/
def insertionsAfter
    (sign : String) : List Nat → List Nat
  | depth :: outer =>
      if sign = "\x7b" || sign = "\x7b|" then (depth + 1) :: outer
      else if sign = "\x7d" || sign = "|\x7d" then (depth - 1) :: outer
      else depth :: outer
  | [] => []

/-- The lexeme of a sign, or of a character that begins nothing. -/
def signLexeme
    (insertions : List Nat)
    (c : Char)
    (rest : List Char) : Lexeme :=
  match signAtStart? (c :: rest) with
  | some (sign, after) => ⟨.sign sign, insertionsAfter sign insertions, after⟩
  | none => ⟨.stray, insertions, rest⟩

/-- The lexeme that a text begins with. -/
def lexeme
    (state : LexicalState)
    (c : Char)
    (rest : List Char) : Lexeme :=
  let text := c :: rest
  let stay (kind : TokenKind) (rest : List Char) : Lexeme := ⟨kind, state.insertions, rest⟩
  match nameAtStart? text with
  | some (name, after) => stay (.word (String.ofList name)) after
  | none =>
      if startsNumber text then stay .number (numberRest text)
      else if c = '"' || c = '\'' then
        match afterString? c rest with
        | some after => stay .string after
        | none => stay .stray rest
      else if c = '`' then templateLexeme state.insertions .template .templateHead rest
      else if c = '\x7d' && state.insertions.head? = some 0 then
        templateLexeme state.insertions.tail .templateTail .templateMiddle rest
      else if c = '#' then
        match nameAtStart? rest with
        | some (_, after) => stay .privateName after
        | none => stay .stray rest
      else if c = '/' && !((state.last?.map endsOperand).getD false) then
        match afterRegex? false rest with
        | some after => stay .regex after
        | none => signLexeme state.insertions c rest
      else signLexeme state.insertions c rest

/-- The tokens of a text, at most `fuel` of them. -/
def tokensFrom : Nat → LexicalState → List Char → List Token
  | 0, _, _ => []
  | fuel + 1, state, text =>
      let skipped := skip false .spaces text
      match skipped.rest with
      | [] => if skipped.openComment then [⟨.stray, skipped.lineBreak⟩] else []
      | c :: rest =>
          let found := lexeme state c rest
          ⟨found.kind, skipped.lineBreak⟩ ::
            tokensFrom fuel ⟨found.insertions, some found.kind⟩ found.rest

/-- The text without a first line that names an interpreter. -/
def withoutInterpreter : List Char → List Char
  | '#' :: '!' :: rest => rest.dropWhile fun c => !isLineBreak c
  | text => text

def tokens
    (text : String) : List Token :=
  let chars := withoutInterpreter text.toList
  tokensFrom (chars.length + 1) ⟨[], none⟩ chars

end Tablewright.Schema
