import Tablewright.Text.Blank
import Tablewright.Text.Lines
import Tablewright.Text.Occurrence

/-!
# Literals in the standard form

A literal of text stands between quotation marks, unless apostrophes save backslashes. Escapes that
are not needed go. The first literal of a module, class or function is its description: its lines
stand at the margin of the block, without blanks behind them.
-/

namespace Tablewright.Layout

/-- The parts of a literal: the letters before its quotes, one of its quotes as they are repeated,
and what stands between them. -/
structure LiteralParts where
  marks : List Char
  quotes : List Char
  body : List Char
  deriving Repr, DecidableEq

def LiteralParts.ofText
    (text : String) : LiteralParts :=
  let chars := text.toList
  let marks := chars.takeWhile fun c => c ≠ '"' ∧ c ≠ '\''
  let rest := chars.drop marks.length
  let triple :=
    6 ≤ rest.length && (rest.take 3 == ['"', '"', '"'] || rest.take 3 == ['\'', '\'', '\''])
  let width := if triple then 3 else 1
  ⟨marks, rest.take width, (rest.drop width).take (rest.length - 2 * width)⟩

def LiteralParts.text
    (parts : LiteralParts) : String :=
  String.ofList (parts.marks ++ parts.quotes ++ parts.body ++ parts.quotes)

/-- The letters before a literal in the standard form. -/
def standardMarks
    (marks : List Char) : List Char :=
  (marks.filter fun c => c ≠ 'u' ∧ c ≠ 'U').map fun c =>
    if c = 'F' then 'f' else if c = 'B' then 'b' else c

/-- The body without the backslashes before a quote. -/
def unescapeQuote
    (quote : Char) : List Char → List Char
  | '\\' :: c :: rest =>
      if c = quote then c :: unescapeQuote quote rest else '\\' :: c :: unescapeQuote quote rest
  | c :: rest => c :: unescapeQuote quote rest
  | [] => []

/-- The body with a backslash before each quote that has none. -/
def escapeQuote
    (quote : Char) : List Char → List Char
  | '\\' :: c :: rest => '\\' :: c :: escapeQuote quote rest
  | c :: rest =>
      if c = quote then '\\' :: c :: escapeQuote quote rest else c :: escapeQuote quote rest
  | [] => []

/-- Whether a backslash stands in a part of a literal that is to be evaluated. -/
def hasBackslashInside : Nat → List Char → Bool
  | 0, '\x7b' :: '\x7b' :: rest => hasBackslashInside 0 rest
  | depth, '\x7b' :: rest => hasBackslashInside (depth + 1) rest
  | depth + 1, '\x7d' :: rest => hasBackslashInside depth rest
  | depth, c :: rest => (decide (0 < depth) && c = '\\') || hasBackslashInside depth rest
  | _, [] => false

/-- The other kind of quote. -/
def otherQuote
    (quote : Char) : Char :=
  if quote = '"' then '\'' else '"'

/-- The number of backslashes. -/
def countBackslashes
    (chars : List Char) : Nat :=
  chars.count '\\'

/-- A literal of which the quotes are chosen: the other kind if it needs fewer backslashes, or as many
and is the quotation mark. -/
def chooseQuotes
    (parts : LiteralParts) : LiteralParts :=
  let isRaw := parts.marks.contains 'r' || parts.marks.contains 'R'
  let isFilled := parts.marks.contains 'f'
  match parts.quotes with
  | [quote] =>
      let other := otherQuote quote
      if isRaw then
        if quote = '"' ∨ escapeQuote other parts.body ≠ parts.body then parts
        else { parts with quotes := [other] }
      else
        let body := unescapeQuote other parts.body
        let changed := escapeQuote other (unescapeQuote quote body)
        if isFilled && hasBackslashInside 0 changed then { parts with body := body }
        else if countBackslashes changed < countBackslashes body ∨
            (countBackslashes changed = countBackslashes body ∧ other = '"') then
          { parts with quotes := [other], body := changed }
        else { parts with body := body }
  | '\'' :: _ =>
      if Text.occursIn "\"" (String.ofList parts.body) then parts
      else { parts with quotes := ['"', '"', '"'] }
  | _ => parts

/-- A literal in the standard form. -/
def standardLiteral
    (text : String) : String :=
  let parts := LiteralParts.ofText text
  let parts := { parts with marks := standardMarks parts.marks }
  if parts.marks.contains 'f' && hasBackslashInside 0 parts.body then parts.text
  else (chooseQuotes parts).text

/-- A number in the standard form: small letters, but capital hexadecimal digits. -/
def standardNumber
    (text : String) : String :=
  match text.toLower.toList with
  | '0' :: 'x' :: digits => "0x" ++ (String.ofList digits).toUpper
  | chars => String.ofList chars

/-! ## Descriptions -/

/-- The lines of a text. What follows the last line end is a line too. -/
def linesOf : List Char → List (List Char)
  | [] => [[]]
  | c :: rest =>
      if c = '\n' then [] :: linesOf rest
      else
        match linesOf rest with
        | line :: lines => (c :: line) :: lines
        | [] => [[c]]

/-- The number of blanks that a line begins with. -/
def indentOf
    (line : List Char) : Nat :=
  (line.takeWhile Text.isBlank).length

/-- The characters without the white space behind them. -/
def stripRight
    (chars : List Char) : List Char :=
  (chars.reverse.dropWhile Text.isBlank).reverse

/-- The lines after the first one at a margin. The last one has the margin even if it is empty. -/
def alignLines
    (margin : List Char)
    (indent : Nat) : List (List Char) → List (List Char)
  | [] => []
  | [last] => [margin ++ stripRight (last.drop indent)]
  | line :: rest =>
      let line := stripRight (line.drop indent)
      (if line.isEmpty then [] else margin ++ line) :: alignLines margin indent rest

/-- The lines of a description at a margin. -/
def alignDescription
    (margin : List Char)
    (body : List Char) : List Char :=
  match linesOf body with
  | [] => []
  | first :: rest =>
      let indents := (rest.filter fun line => !(Text.stripChars line).isEmpty).map indentOf
      let lines :=
        match indents.min? with
        | some indent => alignLines margin indent rest
        | none => []
      List.intercalate ['\n'] (Text.stripChars first :: lines)

/-- The text between the quotes of a description, with blanks where it would touch a quote that it
holds, or end in a backslash. -/
def padDescription
    (quote : Char)
    (wasEmpty : Bool)
    (body : List Char) : List Char :=
  if body.isEmpty then (if wasEmpty then [] else [' '])
  else
    let front := if body.head? = some quote then ' ' :: body else body
    let endsInQuote := front.getLast? = some quote
    let odd := ((front.reverse.takeWhile fun c => c = '\\').length) % 2 = 1
    if endsInQuote ∨ odd then front ++ [' '] else front

/-- A literal that describes what it stands in. -/
def standardDescription
    (depth : Nat)
    (text : String) : String :=
  if Text.occursIn "\\\n" text then text
  else
    let parts := LiteralParts.ofText (standardLiteral text)
    let margin := List.replicate (4 * depth) ' '
    let body :=
      if parts.body.contains '\n' then alignDescription margin parts.body
      else Text.stripChars parts.body
    let padded := padDescription (parts.quotes.head?.getD '"') parts.body.isEmpty body
    LiteralParts.text { parts with body := padded }

end Tablewright.Layout
