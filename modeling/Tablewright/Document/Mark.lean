/-!
# Places in a document

A mark is a place in the text of a document. A cursor is a mark with the text from there on. Besides
the line feed, three other characters end a line.
-/

namespace Tablewright.Document

/-- A place in a text: the number of characters before it, of lines before it, and of characters
before it on its line. -/
structure Mark where
  index : Nat
  line : Nat
  column : Nat
  deriving Repr, DecidableEq, Inhabited

/-- Whether the character ends a line. -/
def isBreak
    (c : Char) : Bool :=
  c = '\n' || c = '\u0085' || c = '\u2028' || c = '\u2029'

/-- Whether there is no more on the line. -/
def endsLine
    (next : Option Char) : Bool :=
  next.all isBreak

/-- Whether what comes next is a space, or there is no more on the line. -/
def endsWord
    (next : Option Char) : Bool :=
  next.all fun c => c = ' ' || isBreak c

/-- Whether what comes next is a space or a tab, or there is no more on the line. -/
def isGap
    (next : Option Char) : Bool :=
  next.all fun c => c = ' ' || c = '\t' || isBreak c

namespace Mark

/-- The beginning of a text. -/
def start : Mark :=
  ⟨0, 0, 0⟩

/-- The place behind a character. A byte order mark takes no column. -/
def after
    (mark : Mark)
    (c : Char) : Mark :=
  if isBreak c then ⟨mark.index + 1, mark.line + 1, 0⟩
  else if c = '\uFEFF' then ⟨mark.index + 1, mark.line, mark.column⟩
  else ⟨mark.index + 1, mark.line, mark.column + 1⟩

/-- The wording of a place in a document that has a name. -/
def text
    (document : String)
    (mark : Mark) : String :=
  "  in \"" ++ document ++ "\", line " ++ toString (mark.line + 1) ++ ", column " ++
    toString (mark.column + 1)

end Mark

/-- A place in a text, with the characters from there on. -/
structure Cursor where
  rest : List Char
  mark : Mark
  deriving Repr, Inhabited

namespace Cursor

/-- The cursor at the beginning of a text. -/
def start
    (text : List Char) : Cursor :=
  ⟨text, Mark.start⟩

/-- The cursor behind the next characters. -/
def skip
    (cursor : Cursor) : Nat → Cursor
  | 0 => cursor
  | count + 1 =>
      match cursor.rest with
      | [] => cursor
      | c :: rest => skip ⟨rest, cursor.mark.after c⟩ count

end Cursor

end Tablewright.Document
