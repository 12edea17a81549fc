import Tablewright.Layout.Token

/-!
# Pieces of a statement

A statement that has been understood is a list of pieces. A piece knows whether a blank stands before
it, whether it is a bracket, and how ready a line is to break behind it: the greater the priority, the
sooner. Hidden brackets stand around an expression that may be broken by brackets of its own; they are
written only where it is.
-/

namespace Tablewright.Layout

/-- What a pair of brackets is for. -/
inductive BracketRole where
  /-- Brackets of an expression that holds one. -/
  | grouping
  | arguments
  | index
  | list
  | braces
  | imports
  /-- Brackets that are not written. -/
  | hidden
  deriving Repr, DecidableEq

/-- Whether a piece is a bracket. -/
inductive Bracket where
  | plain
  | opening (role : BracketRole)
  | closing (role : BracketRole)
  deriving Repr, DecidableEq

/-- What a piece is spelled with. -/
inductive PieceKind where
  | word
  | number
  | literal
  | sign
  /-- A remark on a line of its own. -/
  | remark
  deriving Repr, DecidableEq

/-- A piece of a statement. -/
structure Piece where
  kind : PieceKind
  text : String
  bracket : Bracket
  spaced : Bool
  priority : Nat
  /-- The remarks on lines of their own before it. -/
  leading : List String
  /-- The remarks behind it. -/
  remarks : List String
  deriving Repr, DecidableEq

/-! ## Priorities of breaks -/

namespace Priority

/-- Before the parts of a comprehension. -/
def comprehension : Nat := 20

/-- Behind a comma. -/
def comma : Nat := 18

/-- Before the parts of a choice. -/
def choice : Nat := 16

/-- Before a logical connective. -/
def logic : Nat := 14

/-- Between literals that stand side by side. -/
def literal : Nat := 12

/-- Before a comparison. -/
def comparison : Nat := 10

/-- Before a dot that follows brackets. -/
def dot : Nat := 1

end Priority

namespace Piece

/-- A sign or word that is no bracket. -/
def plain
    (kind : PieceKind)
    (text : String) : Piece :=
  ⟨kind, text, .plain, false, 0, [], []⟩

def opening
    (role : BracketRole)
    (text : String) : Piece :=
  ⟨.sign, text, .opening role, false, 0, [], []⟩

def closing
    (role : BracketRole)
    (text : String) : Piece :=
  ⟨.sign, text, .closing role, false, 0, [], []⟩

/-- Whether the piece is an opening bracket. -/
def isOpening
    (piece : Piece) : Bool :=
  match piece.bracket with
  | .opening _ => true
  | _ => false

/-- Whether the piece is a closing bracket. -/
def isClosing
    (piece : Piece) : Bool :=
  match piece.bracket with
  | .closing _ => true
  | _ => false

def isBracket
    (piece : Piece) : Bool :=
  piece.isOpening || piece.isClosing

def isComma
    (piece : Piece) : Bool :=
  piece.kind = .sign && piece.text == ","

/-- Whether the piece is a remark on a line of its own. -/
def isRemark
    (piece : Piece) : Bool :=
  piece.kind = .remark

/-- The piece behind the remarks before it, which become pieces. -/
def withLeading
    (piece : Piece) : List Piece :=
  piece.leading.map (plain .remark) ++ [{ piece with leading := [] }]

/-- The piece with a blank before it. -/
def withSpace
    (piece : Piece) : Piece :=
  { piece with spaced := true }

end Piece

/-! ## Lists of pieces -/

/-- The first piece has a blank before it. -/
def spaceFirst : List Piece → List Piece
  | [] => []
  | piece :: rest => piece.withSpace :: rest

/-- The first piece has no blank before it. -/
def tightFirst : List Piece → List Piece
  | [] => []
  | piece :: rest => { piece with spaced := false } :: rest

/-- A line may break behind the last piece. -/
def markLast
    (priority : Nat) : List Piece → List Piece
  | [] => []
  | [piece] => [{ piece with priority := max piece.priority priority }]
  | piece :: rest => piece :: markLast priority rest

/-- No line breaks at these pieces. -/
def unmark
    (pieces : List Piece) : List Piece :=
  pieces.map fun piece => { piece with priority := 0 }

def textOfPieces
    (pieces : List Piece) : String :=
  String.join ((tightFirst pieces).map fun piece =>
    if piece.spaced then " " ++ piece.text else piece.text)

def remarksOfPieces
    (pieces : List Piece) : List String :=
  pieces.flatMap Piece.remarks

/-- The pieces, each with the number of brackets around it that are opened among them. -/
def withDepths : Nat → List Piece → List (Nat × Piece)
  | _, [] => []
  | depth, piece :: rest =>
      match piece.bracket with
      | .plain => (depth, piece) :: withDepths depth rest
      | .opening _ => (depth, piece) :: withDepths (depth + 1) rest
      | .closing _ => (depth - 1, piece) :: withDepths (depth - 1) rest

/-- The pieces that stand in no brackets opened among them. -/
def outerPieces
    (pieces : List Piece) : List Piece :=
  ((withDepths 0 pieces).filter fun (depth, _) => depth = 0).map Prod.snd

/-- The pieces up to the bracket that closes the innermost one, and the rest. -/
def splitAtClosing : Nat → List Piece → List Piece × List Piece
  | _, [] => ([], [])
  | depth, piece :: rest =>
      match piece.bracket, depth with
      | .closing _, 0 => ([], piece :: rest)
      | .closing _, depth + 1 =>
          let (inner, after) := splitAtClosing depth rest
          (piece :: inner, after)
      | .opening _, depth =>
          let (inner, after) := splitAtClosing (depth + 1) rest
          (piece :: inner, after)
      | .plain, depth =>
          let (inner, after) := splitAtClosing depth rest
          (piece :: inner, after)

/-- Remarks are added to the last piece. -/
def noteLast
    (remarks : List String) : List Piece → List Piece
  | [] => []
  | [piece] => [{ piece with remarks := piece.remarks ++ remarks }]
  | piece :: rest => piece :: noteLast remarks rest

/-- The pieces between brackets, if the pieces are one expression in brackets for grouping. A remark
behind the opening bracket, or on a line before the closing one, keeps them; one behind the closing
bracket goes with the last piece. -/
def ungrouped?
    (pieces : List Piece) : Option (List Piece) :=
  match pieces with
  | first :: rest =>
      if first.bracket = .opening .grouping ∧ first.remarks.isEmpty then
        match splitAtClosing 0 rest with
        | (inner, [last]) =>
            if last.leading.isEmpty then some (noteLast last.remarks inner) else none
        | _ => none
      else none
  | [] => none

/-- Whether the pieces are a single item with a comma behind it. -/
def isSingleWithComma
    (pieces : List Piece) : Bool :=
  ((outerPieces pieces).filter Piece.isComma).length = 1 &&
    (pieces.getLast?.map Piece.isComma).getD false

/-- Whether a comma, or a part of a comprehension, stands in no brackets opened among the pieces. -/
def isManifold
    (pieces : List Piece) : Bool :=
  (outerPieces pieces).any fun piece => piece.isComma || Priority.comma ≤ piece.priority

/-- The expression without brackets that only group it. A list or a comprehension keeps them. -/
def ungroup : Nat → List Piece → List Piece
  | 0, pieces => pieces
  | fuel + 1, pieces =>
      match ungrouped? pieces with
      | some inner =>
          if inner.isEmpty ∨ isManifold inner ∨
              (inner.head?.map fun piece => piece.text == "yield").getD false ∨
              inner.any (fun piece => piece.text == ":=") then pieces
          else ungroup fuel inner
      | none => pieces

/-- Whether the pieces are one literal that goes over several lines. -/
def isLongLiteral
    (pieces : List Piece) : Bool :=
  match pieces with
  | [piece] => piece.kind = .literal && piece.text.toList.contains '\n'
  | _ => false

/-- An expression in hidden brackets. One that has brackets of its own for all of it keeps these. -/
def hide
    (pieces : List Piece) : List Piece :=
  let pieces := ungroup pieces.length pieces
  if pieces.isEmpty ∨ (ungrouped? pieces).isSome ∨ isLongLiteral pieces then pieces
  else if isSingleWithComma pieces then
    Piece.opening .grouping "(" :: tightFirst pieces ++ [Piece.closing .grouping ")"]
  else
    Piece.opening .hidden "" :: tightFirst pieces ++ [Piece.closing .hidden ""]

end Tablewright.Layout
