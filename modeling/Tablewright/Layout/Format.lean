import Tablewright.Layout.Gap
import Tablewright.Layout.Split

/-!
# The layout of a module

A module is laid out anew: statements are broken where they are too long and joined where they fit,
literals and remarks have the standard form, and empty lines stand where they belong. What cannot be
read is not laid out. Layouts are made twice, for commas that the first one adds count in the second.
-/

namespace Tablewright.Layout

/-- The reason why a module cannot be laid out. -/
structure Fault where
  /-- Where something does not fit. -/
  position : Position
  /-- The line there, if it is one of the module. -/
  line? : Option String
  deriving Repr, DecidableEq

/-- The wording of a fault. -/
def Fault.message
    (fault : Fault) : String :=
  "cannot parse: " ++ toString fault.position.line ++ ":" ++ toString fault.position.column ++
    "\n    " ++ fault.line?.getD "<line number missing in source>" ++
    "\n    " ++ String.ofList (List.replicate (fault.position.column - 1) ' ') ++ "^" ++
    "\nParseError: bad input"

/-- The lines of a text by the wider notion of a line. -/
def sourceLines
    (current : List Char) : List Char → List String
  | [] => if current.isEmpty then [] else [String.ofList current.reverse]
  | c :: rest =>
      if Text.isLineEnd c then String.ofList current.reverse :: sourceLines [] rest
      else sourceLines (c :: current) rest

def Fault.ofPosition
    (text : String)
    (position : Position) : Fault :=
  ⟨position, (sourceLines [] text.toList)[position.line - 1]?⟩

/-- Whether an entry describes what it stands in: the first statement of a module, class or function,
if that is a literal alone. -/
def describes
    (before : Option Statement)
    (statement : Statement) : Bool :=
  (match before with
    | none => true
    | some head => head.kind = .function || head.kind = .classHead) &&
    match statement.pieces with
    | [piece] =>
        piece.kind = .literal &&
          (LiteralParts.ofText piece.text).marks.all fun c => c = 'r' || c = 'R'
    | _ => false

def describe
    (depth : Nat)
    (pieces : List Piece) : List Piece :=
  pieces.map fun piece => { piece with text := standardDescription depth piece.text }

/-- The lines of entries; `before` is the last statement. -/
def entryLines
    (before : Option Statement) : List (Entry × Nat) → List String
  | [] => []
  | (entry, gap) :: rest =>
      let blanks := List.replicate gap ""
      match entry.content with
      | .remark text => blanks ++ (marginText entry.depth ++ text) :: entryLines before rest
      | .statement statement =>
          let pieces :=
            if describes before statement then describe entry.depth statement.pieces
            else statement.pieces
          let lines := linesOfPieces entry.depth (statement.kind = .function)
            (statement.kind = .importing) pieces
          blanks ++ lines.map Line.text ++ entryLines (some statement) rest

/-- A module, laid out once. -/
def layOutOnce
    (text : String) : Except Fault String :=
  let body := text.toList.dropWhile Text.isBlank
  if body.isEmpty then .ok (if text.toList.contains '\n' then "\n" else "")
  else
    let source := String.ofList body
    let source := if body.getLast? = some '\n' then source else source ++ "\n"
    match entriesOfSheet (Sheet.ofText source) with
    | .error position => .error (Fault.ofPosition source position)
    | .ok entries =>
        let lines := entryLines none (entries.zip (gapsOf entries))
        .ok (String.join (lines.map fun line => line ++ "\n"))

/-- A module, laid out. -/
def format
    (text : String) : Except Fault String := do
  let first ← layOutOnce text
  if first = text then return first else layOutOnce first

end Tablewright.Layout
