/-!
# Lines

Two notions of a line. Reading a text file turns every line end into a line feed. Counting the
lines of a generated module also ends a line at the other vertical separators.
-/

namespace Tablewright.Text

/-- The text with each carriage return, alone or before a line feed, made one line feed. -/
def unifyLineEnds : List Char → List Char
  | [] => []
  | '\r' :: '\n' :: rest => '\n' :: unifyLineEnds rest
  | '\r' :: rest => '\n' :: unifyLineEnds rest
  | c :: rest => c :: unifyLineEnds rest

/-- Whether the character ends a line for the purpose of counting. -/
def isLineEnd
    (c : Char) : Bool :=
  c = '\n' || c = '\r' || c = '\x0b' || c = '\x0c' || c = '\x1c' || c = '\x1d' || c = '\x1e' ||
    c = '\u0085' || c = '\u2028' || c = '\u2029'

/-- The number of lines that follow; `started` says whether characters of a line came before. -/
def countLinesFrom
    (started : Bool) : List Char → Nat
  | [] => if started then 1 else 0
  | '\r' :: '\n' :: rest => countLinesFrom false rest + 1
  | c :: rest =>
      if isLineEnd c then countLinesFrom false rest + 1 else countLinesFrom true rest

/-- The number of lines of a text, the last of which need not be ended. -/
def countLines
    (text : String) : Nat :=
  countLinesFrom false text.toList

end Tablewright.Text
