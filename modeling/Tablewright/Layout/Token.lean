import Tablewright.Text.Blank
import Tablewright.Text.Identifier

/-!
# Tokens of a module

A module is a text of rows. A row ends with its line, unless a bracket is open, and stands behind a
margin that tells how deeply it is nested. Remarks on lines of their own belong to the row that
follows, or inside brackets to the token that follows; a remark behind a token belongs to that token.
-/

namespace Tablewright.Layout

/-- What a token is. -/
inductive TokenKind where
  | word
  | number
  | literal
  | sign
  /-- The end of a row. -/
  | rowEnd
  /-- The end of the module. -/
  | moduleEnd
  /-- A character that begins nothing, or a literal without an end. -/
  | stray
  deriving Repr, DecidableEq

/-- Where something stands: the line from one, the column from nought. -/
structure Position where
  line : Nat
  column : Nat
  deriving Repr, DecidableEq

/-- The position behind a character. -/
def Position.after
    (position : Position)
    (c : Char) : Position :=
  if c = '\n' then ⟨position.line + 1, 0⟩ else ⟨position.line, position.column + 1⟩

/-- The position behind characters. -/
def Position.afterAll
    (position : Position)
    (chars : List Char) : Position :=
  chars.foldl Position.after position

/-- A token with the remarks around it. -/
structure Token where
  kind : TokenKind
  text : String
  position : Position
  /-- The remarks on lines of their own before it. -/
  leading : List String
  /-- The remarks behind it. -/
  remarks : List String
  deriving Repr, DecidableEq

/-- Whether the token is a sign or a word with a spelling. -/
def Token.isText
    (token : Token)
    (text : String) : Bool :=
  (token.kind = .sign || token.kind = .word) && token.text == text

/-- A remark on a line of its own. -/
structure Remark where
  /-- The number of empty lines before it. -/
  blanks : Nat
  margin : Nat
  text : String
  deriving Repr, DecidableEq

/-- The tokens of a row with what stands before them. -/
structure Row where
  remarks : List Remark
  /-- The number of empty lines between the last remark and the row. -/
  blanks : Nat
  margin : Nat
  tokens : List Token
  deriving Repr, DecidableEq

/-- The rows of a module with what stands behind them. -/
structure Sheet where
  rows : List Row
  remarks : List Remark
  ending : Position
  deriving Repr, DecidableEq

/-! ## Characters to tokens -/

/-- The signs, longer ones before those that they begin with. -/
def signs : List String :=
  ["**=", "//=", ">>=", "<<=", "...", "->", ":=", "==", "!=", "<=", ">=", "+=", "-=", "*=", "/=",
    "%=", "&=", "|=", "^=", "@=", "**", "//", "<<", ">>", "+", "-", "*", "/", "%", "@", "&", "|",
    "^", "~", "<", ">", "(", ")", "[", "]", "\x7b", "\x7d", ",", ":", ".", ";", "="]

/-- The letters that may stand before the quote of a literal, in small letters. -/
def literalMarks : List String :=
  ["r", "b", "u", "f", "br", "rb", "fr", "rf"]

/-- The characters of a literal up to and with its closing quotes, and the rest. -/
def takeLiteral
    (quotes : List Char) : List Char → Option (List Char × List Char)
  | [] => none
  | '\\' :: c :: rest =>
      (takeLiteral quotes rest).map fun (body, rest) => ('\\' :: c :: body, rest)
  | c :: rest =>
      if quotes.isPrefixOf (c :: rest) then some (quotes, (c :: rest).drop quotes.length)
      else if c = '\n' ∧ quotes.length = 1 then none
      else (takeLiteral quotes rest).map fun (body, rest) => (c :: body, rest)

/-- The literal that begins with a quote, and the rest. -/
def literal?
    (quote : Char)
    (rest : List Char) : Option (List Char × List Char) :=
  let quotes := if [quote, quote].isPrefixOf rest then [quote, quote, quote] else [quote]
  (takeLiteral quotes (rest.drop (quotes.length - 1))).map fun (body, rest) => (quotes ++ body, rest)

/-- The characters of a number. A sign belongs to it behind the letter of an exponent. -/
def takeNumber
    (hexadecimal : Bool) : List Char → List Char
  | [] => []
  | c :: rest =>
      if (c = 'e' ∨ c = 'E') ∧ !hexadecimal then
        match rest with
        | s :: d :: more =>
            if (s = '+' ∨ s = '-') ∧ d.isDigit then c :: s :: d :: takeNumber hexadecimal more
            else c :: takeNumber hexadecimal (s :: d :: more)
        | rest => c :: takeNumber hexadecimal rest
      else if c.isAlphanum ∨ c = '_' ∨ c = '.' then c :: takeNumber hexadecimal rest
      else []
  termination_by chars => chars.length

/-- A number, if the characters begin with one. -/
def number?
    (chars : List Char) : Option (List Char) :=
  match chars with
  | '0' :: c :: _ =>
      some (takeNumber (c = 'x' ∨ c = 'X') chars)
  | c :: rest =>
      if c.isDigit ∨ (c = '.' ∧ (rest.head?.map Char.isDigit).getD false) then
        some (takeNumber false chars)
      else none
  | [] => none

/-- The kind and the characters of the token that stands first. -/
def firstToken
    (chars : List Char) : TokenKind × List Char :=
  let word := chars.takeWhile Text.isIdentifierContinue
  let rest := chars.drop word.length
  match number? chars with
  | some number => (.number, number)
  | none =>
      match rest with
      | quote :: more =>
          if (quote = '"' ∨ quote = '\'') ∧
              (word = [] ∨ literalMarks.contains (String.ofList word).toLower) then
            match literal? quote more with
            | some (text, _) => (.literal, word ++ text)
            | none => (.stray, word ++ [quote])
          else if word = [] then
            match signs.find? fun sign => sign.toList.isPrefixOf chars with
            | some sign => (.sign, sign.toList)
            | none => (.stray, chars.take 1)
          else (.word, word)
      | [] => (if word = [] then .stray else .word, if word = [] then chars.take 1 else word)

/-! ## Tokens to rows -/

/-- How far a module has been read. Lists are kept with the last item first. -/
structure Scan where
  position : Position
  /-- The number of open brackets. -/
  depth : Nat
  margin : Nat
  tokens : List Token
  /-- The remarks on lines of their own inside the row that no token has followed yet. -/
  leading : List String
  blanks : Nat
  remarks : List Remark
  rows : List Row
  deriving Repr

namespace Scan

/-- The beginning of a module. -/
def start : Scan := ⟨⟨1, 0⟩, 0, 0, [], [], 0, [], []⟩

/-- Some characters are passed over. -/
def skip
    (scan : Scan)
    (chars : List Char) : Scan :=
  { scan with position := scan.position.afterAll chars }

/-- A token is added to the row. The first one sets the margin. -/
def push
    (scan : Scan)
    (kind : TokenKind)
    (chars : List Char) : Scan :=
  let token : Token := ⟨kind, String.ofList chars, scan.position, scan.leading.reverse, []⟩
  let depth :=
    if kind ≠ .sign then scan.depth
    else if ["(", "[", "\x7b"].contains token.text then scan.depth + 1
    else if [")", "]", "\x7d"].contains token.text then scan.depth - 1
    else scan.depth
  let margin := if scan.tokens.isEmpty then scan.position.column else scan.margin
  { scan.skip chars with
    tokens := token :: scan.tokens
    leading := []
    depth := depth
    margin := margin }

/-- The row is closed by a token of a kind. -/
def close
    (scan : Scan)
    (kind : TokenKind) : Scan :=
  let last : Token := ⟨kind, "", scan.position, [], []⟩
  let row : Row := ⟨scan.remarks.reverse, scan.blanks, scan.margin, (last :: scan.tokens).reverse⟩
  { scan with tokens := [], leading := [], remarks := [], blanks := 0, rows := row :: scan.rows }

/-- A remark in the standard form: one blank behind the sign, unless another sign stands there. -/
def remarkText
    (chars : List Char) : String :=
  let body := (chars.drop 1).reverse.dropWhile Text.isBlank |>.reverse
  match body with
  | [] => "#"
  | c :: rest =>
      if c = '\u00a0' then String.ofList ('#' :: ' ' :: rest)
      else if [' ', '!', ':', '#', '\''].contains c then String.ofList ('#' :: body)
      else String.ofList ('#' :: ' ' :: body)

/-- A remark is added behind the last token, or on a line of its own if that is `empty` so far. -/
def note
    (scan : Scan)
    (empty : Bool)
    (chars : List Char) : Scan :=
  match scan.tokens with
  | token :: rest =>
      if empty then { scan.skip chars with leading := remarkText chars :: scan.leading }
      else
        let token := { token with remarks := token.remarks ++ [remarkText chars] }
        { scan.skip chars with tokens := token :: rest }
  | [] =>
      let remark : Remark := ⟨scan.blanks, scan.position.column, remarkText chars⟩
      { scan.skip chars with remarks := remark :: scan.remarks, blanks := 0 }

/-- A line ends. -/
def endLine
    (scan : Scan)
    (empty : Bool) : Scan :=
  if scan.tokens.isEmpty then
    { scan.skip ['\n'] with blanks := if empty then scan.blanks + 1 else scan.blanks }
  else if 0 < scan.depth then scan.skip ['\n']
  else (scan.close .rowEnd).skip ['\n']

/-- The end of a module. A row that is still open ends there. -/
def finish
    (scan : Scan) : Sheet :=
  let scan := if scan.tokens.isEmpty then scan else scan.close .moduleEnd
  ⟨scan.rows.reverse, scan.remarks.reverse, scan.position⟩

end Scan

/-- Reads characters into rows; `empty` says whether the line holds nothing so far. -/
def scanRows : Nat → Scan → Bool → List Char → Scan
  | 0, scan, _, _ => scan
  | _ + 1, scan, _, [] => scan
  | fuel + 1, scan, _, '\\' :: '\n' :: rest => scanRows fuel (scan.skip ['\\', '\n']) false rest
  | fuel + 1, scan, empty, c :: rest =>
      if c = '\n' then scanRows fuel (scan.endLine empty) true rest
      else if c = ' ' ∨ c = '\t' ∨ c = '\x0c' then scanRows fuel (scan.skip [c]) empty rest
      else if c = '#' then
        let remark := c :: rest.takeWhile fun c => c ≠ '\n'
        scanRows fuel (scan.note empty remark) false ((c :: rest).drop remark.length)
      else
        let (kind, chars) := firstToken (c :: rest)
        scanRows fuel (scan.push kind chars) false ((c :: rest).drop chars.length)

/-- The rows of a module. -/
def Sheet.ofText
    (text : String) : Sheet :=
  let chars := text.toList
  (scanRows (chars.length + 1) Scan.start true chars).finish

end Tablewright.Layout
