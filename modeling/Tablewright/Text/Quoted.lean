import Tablewright.Text.PrintableSpans

/-!
# Quoted texts

A text as a string literal of the generated language, on one line. The quote is the apostrophe,
unless the text holds an apostrophe and no quotation mark. The quote and the backslash are escaped,
as are all characters that cannot be shown.
-/

namespace Tablewright.Text

/-- Whether the character can be shown as it is. -/
def isPrintable
    (c : Char) : Bool :=
  Span.anyContains printableSpans c

/-- The hexadecimal digit of a number below sixteen. -/
def hexDigit
    (n : Nat) : Char :=
  if n < 10 then Char.ofNat (48 + n) else Char.ofNat (87 + n)

/-- The last `width` hexadecimal digits of a number, the most significant first. -/
def hexDigits : Nat → Nat → List Char
  | 0, _ => []
  | width + 1, n => hexDigits width (n / 16) ++ [hexDigit (n % 16)]

/-- A character that cannot be shown, by its code point in the shortest of three widths. -/
def escapeCode
    (code : Nat) : List Char :=
  if code < 0x100 then
    '\\' :: 'x' :: hexDigits 2 code
  else if code < 0x10000 then
    '\\' :: 'u' :: hexDigits 4 code
  else
    '\\' :: 'U' :: hexDigits 8 code

/-- One character inside a literal that `quote` delimits. -/
def escapeChar
    (quote c : Char) : List Char :=
  if c = quote ∨ c = '\\' then ['\\', c]
  else if c = '\t' then ['\\', 't']
  else if c = '\n' then ['\\', 'n']
  else if c = '\r' then ['\\', 'r']
  else if isPrintable c then [c]
  else escapeCode c.toNat

/-- The quote that delimits the literal of a text. -/
def quoteFor
    (chars : List Char) : Char :=
  if chars.contains '\'' && !chars.contains '"' then '"' else '\''

/-- The literal of a text. -/
def quoteChars
    (chars : List Char) : List Char :=
  let quote := quoteFor chars
  quote :: chars.flatMap (escapeChar quote) ++ [quote]

/-- The literal of a text. -/
def quoted
    (text : String) : String :=
  String.ofList (quoteChars text.toList)

end Tablewright.Text
