import Tablewright.Layout.Piece
import Tablewright.Text.Width

/-!
# Lines of a statement

A line holds pieces at a depth. It is one of the lines that a statement is broken into, or holds all of
it. A comma before a closing bracket asks for one item on each line.
-/

namespace Tablewright.Layout

/-- The greatest width of a line. -/
def lineWidth : Nat := 120

/-- What a line is of the line that was broken. -/
inductive LinePart where
  /-- A statement that has not been broken. -/
  | whole
  /-- What stands up to an opening bracket. -/
  | head
  /-- What stands in brackets. -/
  | body
  /-- What stands from a closing bracket on. -/
  | tail
  deriving Repr, DecidableEq

/-- A line. -/
structure Line where
  depth : Nat
  part : LinePart
  /-- Whether it is the head of a function. -/
  isFunction : Bool
  isImport : Bool
  /-- Whether it has to be broken even if it is short. -/
  exploded : Bool
  pieces : List Piece
  deriving Repr, DecidableEq

/-- The blanks before a line. -/
def marginText
    (depth : Nat) : String :=
  String.ofList (List.replicate (4 * depth) ' ')

namespace Line

/-- The text of a line, with all remarks at its end. -/
def text
    (line : Line) : String :=
  marginText line.depth ++ textOfPieces line.pieces ++
    String.join ((remarksOfPieces line.pieces).map fun remark => "  " ++ remark)

/-- Whether a line is no longer than a width. A literal of several lines never is, nor are remarks on
lines of their own with anything beside them. -/
def fitsIn
    (width : Nat)
    (line : Line) : Bool :=
  if line.pieces.any Piece.isRemark then line.pieces.length = 1
  else !(line.text.toList.contains '\n') && Text.width line.text ≤ width

/-- Whether a line is short enough. -/
def fits
    (line : Line) : Bool :=
  line.fitsIn lineWidth

/-- The greatest priority of pieces, which is nought if no line breaks at them. -/
def maxPriority
    (pieces : List Piece) : Nat :=
  (pieces.map Piece.priority).foldl max 0

end Line

/-- Whether items in brackets keep their last comma, which then asks for one item on each line. The
comma of a single item does not ask for that where it has a meaning. -/
def keepsComma
    (role : BracketRole)
    (items : List Piece) : Bool :=
  (items.getLast?.any Piece.isComma) &&
    match role with
    | .index | .grouping | .hidden => !isSingleWithComma items
    | _ => true

/-- Whether some brackets among the pieces keep their last comma. -/
def hasKeptComma : List Piece → Bool
  | [] => false
  | piece :: rest =>
      (match piece.bracket with
        | .opening role =>
            match splitAtClosing 0 rest with
            | (items, _ :: _) => keepsComma role items
            | _ => false
        | _ => false) || hasKeptComma rest

namespace Line

/-- Whether a line asks for one item on each line. -/
def asksForLines
    (line : Line) : Bool :=
  line.exploded || (line.part ≠ .tail && hasKeptComma line.pieces)

end Line

end Tablewright.Layout
