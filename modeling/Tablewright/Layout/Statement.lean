import Tablewright.Layout.Expression

/-!
# Statements of a module

A row holds simple statements, or the head of a block, which the first statements of the block may
follow. What is assigned, returned or tested stands in hidden brackets.
-/

namespace Tablewright.Layout

/-- What a statement is, as far as the lines around it depend on that. -/
inductive StatementKind where
  | simple
  | importing
  | decorator
  | function
  | classHead
  /-- The head of another block. -/
  | blockHead
  deriving Repr, DecidableEq

/-- A statement, or the head of one. -/
structure Statement where
  kind : StatementKind
  pieces : List Piece
  deriving Repr, DecidableEq

/-- The heads of blocks by what may stand before and after them. -/
inductive Clause where
  | simple
  | decorator
  /-- A function or class. -/
  | definition
  | condition
  | furtherCondition
  | otherwise
  | loop
  | attempt
  | rescue
  | cleanup
  | resource
  deriving Repr, DecidableEq

/-- What a row holds. -/
structure RowContent where
  clause : Clause
  head : Statement
  /-- Statements behind the first one. -/
  more : List Statement
  /-- Whether a block has to follow. -/
  opensBlock : Bool
  deriving Repr, DecidableEq

open Reader

/-- An expression of a statement, or what a generator hands over. -/
def readValue
    (fuel : Nat) : Reader (List Piece) := do
  if (← isNext "yield") then readYield fuel else readList fuel

/-- The signs of assignments that combine. -/
def combiningSigns : List String :=
  ["+=", "-=", "*=", "/=", "//=", "%=", "@=", "&=", "|=", "^=", "<<=", ">>=", "**="]

/-- What is assigned, through all assignments of a chain. -/
def readAssigned : Nat → Reader (List Piece)
  | 0 => fail
  | fuel + 1 => do
      match (← takeIf "=") with
      | some sign =>
          let value ← readValue fuel
          return sign.withSpace :: spaceFirst (hide value) ++ (← readAssigned fuel)
      | none => return []

/-- An assignment, or an expression that stands for itself. -/
def readAssignment
    (fuel : Nat) : Reader (List Piece) := do
  let target ← readValue fuel
  if (← isNext ":") then
    let colon ← take
    let what ← readChoice fuel
    return target ++ colon :: spaceFirst what ++ (← readAssigned fuel)
  else if (← isNextOf combiningSigns) then
    let sign ← take
    return target ++ sign.withSpace :: spaceFirst (hide (← readValue fuel))
  else return target ++ (← readAssigned fuel)

/-- A name with dots. -/
def readDotted : Nat → Reader (List Piece)
  | 0 => fail
  | fuel + 1 => do
      let first ← definable
      match (← takeIf ".") with
      | some dot => return first :: dot :: (← readDotted fuel)
      | none => return [first]

/-- Another name for what is imported. -/
def readAlias : Reader (List Piece) := do
  match (← takeIf "as") with
  | some word => return [word.withSpace, (← definable).withSpace]
  | none => return []

/-- Modules that are imported. -/
def readModules : Nat → Reader (List Piece)
  | 0 => fail
  | fuel + 1 => do
      let first ← readDotted fuel
      let first := first ++ (← readAlias)
      match (← takeIf ",") with
      | some comma => return first ++ comma :: spaceFirst (← readModules fuel)
      | none => return first

/-- Names that are imported from a module. -/
def readImported : Nat → Reader (List Piece)
  | 0 => fail
  | fuel + 1 => do
      let first ← definable
      let first := first :: (← readAlias)
      match (← takeIf ",") with
      | some comma =>
          if (← isNext ")") then return first ++ [{ comma with priority := Priority.comma }]
          else return joinItems first comma (← readImported fuel)
      | none => return first

/-- The dots before the name of a module. -/
def readDots : Nat → Reader (List Piece)
  | 0 => return []
  | fuel + 1 => do
      if (← isNextOf [".", "..."]) then return (← take) :: (← readDots fuel) else return []

/-- An import of names from a module. -/
def readImportFrom
    (fuel : Nat) : Reader (List Piece) := do
  let first ← expect "from"
  let dots ← readDots fuel
  let source ←
    if !dots.isEmpty && (← isNext "import") then pure dots
    else pure (dots ++ (← readDotted fuel))
  let word ← expect "import"
  let head := first :: spaceFirst source ++ [word.withSpace]
  if (← isNext "*") then return head ++ [(← take).withSpace]
  else if (← isNext "(") then
    let left ← take
    let names ← readImported fuel
    let right ← expect ")"
    let isLong := names.getLast?.any Piece.isComma
    let text (written : String) : String := if isLong then written else ""
    return head ++ { left with bracket := .opening .imports, text := text "(", spaced := true } ::
      names ++ [{ right with bracket := .closing .imports, text := text ")" }]
  else
    return head ++ (Piece.opening .imports "").withSpace :: (← readImported fuel) ++
      [Piece.closing .imports ""]

/-- Names between commas. -/
def readNames : Nat → Reader (List Piece)
  | 0 => fail
  | fuel + 1 => do
      let first ← definable
      match (← takeIf ",") with
      | some comma => return first :: comma :: spaceFirst (← readNames fuel)
      | none => return [first]

def readRaised
    (fuel : Nat) : Reader (List Piece) := do
  if isListEnd (← peek) then return []
  else
    let raised ← readChoice fuel
    match (← takeIf "from") with
    | some word => return raised ++ word.withSpace :: spaceFirst (← readChoice fuel)
    | none => return raised

def readSimple
    (fuel : Nat) : Reader Statement := do
  let token ← peek
  let kept (words : List String) : Bool := words.any token.isText
  if kept ["pass", "break", "continue"] then return ⟨.simple, [← take]⟩
  else if kept ["import"] then
    let word ← take
    return ⟨.importing, word :: spaceFirst (← readModules fuel)⟩
  else if kept ["from"] then return ⟨.importing, ← readImportFrom fuel⟩
  else if kept ["return"] then
    let word ← take
    if isListEnd (← peek) then return ⟨.simple, [word]⟩
    else return ⟨.simple, word :: spaceFirst (hide (← readList fuel))⟩
  else if kept ["raise"] then
    let word ← take
    return ⟨.simple, word :: spaceFirst (← readRaised fuel)⟩
  else if kept ["global", "nonlocal"] then
    let word ← take
    return ⟨.simple, word :: spaceFirst (← readNames fuel)⟩
  else if kept ["del"] then
    let word ← take
    return ⟨.simple, word :: spaceFirst (hide (← readTargets fuel))⟩
  else if kept ["assert"] then
    let word ← take
    let claim ← readChoice fuel
    match (← takeIf ",") with
    | some comma =>
        return ⟨.simple, word :: spaceFirst (hide claim) ++ comma ::
          spaceFirst (hide (← readChoice fuel))⟩
    | none => return ⟨.simple, word :: spaceFirst (hide claim)⟩
  else return ⟨.simple, ← readAssignment fuel⟩

/-! ## Heads of blocks -/

/-- A word with an expression in hidden brackets, and a colon. -/
def readTest
    (fuel : Nat) : Reader (List Piece) := do
  let word ← take
  let test ← readNamed fuel
  return word :: spaceFirst (hide test) ++ [← expect ":"]

/-- The head of a loop over items. -/
def readLoop
    (fuel : Nat) : Reader (List Piece) := do
  let word ← expect "for"
  let targets ← readTargets fuel
  let preposition ← expect "in"
  let source ← readList fuel
  return word :: spaceFirst targets ++ preposition.withSpace :: spaceFirst (hide source) ++
    [← expect ":"]

def readRescue
    (fuel : Nat) : Reader (List Piece) := do
  let word ← expect "except"
  let star := (← takeIf "*").toList
  if (← isNext ":") then return word :: star ++ [← expect ":"]
  else
    let what ← readList fuel
    return word :: star ++ spaceFirst (hide what) ++ (← readAlias) ++ [← expect ":"]

/-- The resources of a block. -/
def readResources : Nat → Reader (List Piece)
  | 0 => fail
  | fuel + 1 => do
      let first ← readChoice fuel
      let first ←
        match (← takeIf "as") with
        | some word => pure (first ++ word.withSpace :: spaceFirst (← readOperators fuel operatorLevels))
        | none => pure first
      match (← takeIf ",") with
      | some comma => return first ++ comma :: spaceFirst (← readResources fuel)
      | none => return first

/-- Parameters, or what a class is derived from, in brackets. -/
def readHeadBrackets
    (fuel : Nat)
    (kind : ItemKind) : Reader (List Piece) := do
  if (← isNext "(") then readBrackets fuel kind .arguments ")" else fail

/-- The head of a function. -/
def readFunction
    (fuel : Nat) : Reader (List Piece) := do
  let word ← expect "def"
  let name ← definable
  let parameters ← readHeadBrackets fuel .parameter
  let result ←
    match (← takeIf "->") with
    | some sign => pure (sign.withSpace :: spaceFirst (← readChoice fuel))
    | none => pure []
  return word :: name.withSpace :: parameters ++ result ++ [← expect ":"]

/-- The head of a class. Brackets with nothing between them go. -/
def readClass
    (fuel : Nat) : Reader (List Piece) := do
  let word ← expect "class"
  let name ← definable
  let bases ← if (← isNext "(") then readHeadBrackets fuel .argument else pure []
  let bases := if bases.length = 2 && (remarksOfPieces bases).isEmpty then [] else bases
  return word :: name.withSpace :: bases ++ [← expect ":"]

/-- The clauses that begin with a word, with the kind of their heads. -/
def clauses : List (String × Clause × StatementKind) :=
  [("if", .condition, .blockHead), ("elif", .furtherCondition, .blockHead),
    ("else", .otherwise, .blockHead), ("while", .loop, .blockHead), ("for", .loop, .blockHead),
    ("try", .attempt, .blockHead), ("except", .rescue, .blockHead),
    ("finally", .cleanup, .blockHead), ("with", .resource, .blockHead),
    ("def", .definition, .function), ("class", .definition, .classHead)]

/-- The head of a block that begins with a word. -/
def readHead
    (fuel : Nat)
    (word : String) : Reader (List Piece) := do
  if word = "if" ∨ word = "elif" ∨ word = "while" then readTest fuel
  else if word = "for" then readLoop fuel
  else if word = "except" then readRescue fuel
  else if word = "with" then
    let first ← take
    return first :: spaceFirst (← readResources fuel) ++ [← expect ":"]
  else if word = "def" then readFunction fuel
  else if word = "class" then readClass fuel
  else
    let first ← take
    return [first, ← expect ":"]

/-! ## Rows -/

def readRowEnd : Reader Unit := do
  if (← peek).kind = .rowEnd then let _ ← take else fail

/-- Simple statements up to the end of the row. -/
def readSimples : Nat → Reader (List Statement)
  | 0 => fail
  | fuel + 1 => do
      let first ← readSimple fuel
      match (← takeIf ";") with
      | some _ =>
          if (← peek).kind = .rowEnd then
            readRowEnd
            return [first]
          else return first :: (← readSimples fuel)
      | none =>
          readRowEnd
          return [first]

/-- What a row holds. -/
def readRow
    (fuel : Nat) : Reader RowContent := do
  if (← isNext "@") then
    let sign ← take
    let pieces := sign :: (← readNamed fuel)
    readRowEnd
    return ⟨.decorator, ⟨.decorator, pieces⟩, [], false⟩
  else
    let waiting := (← takeIf "async").toList
    let token ← peek
    match clauses.find? fun (word, _) => token.isText word with
    | some (word, clause, kind) =>
        if !waiting.isEmpty && !(["def", "with", "for"].contains word) then fail
        let pieces ← readHead fuel word
        let pieces := if waiting.isEmpty then pieces else waiting ++ spaceFirst pieces
        if (← peek).kind = .rowEnd then
          readRowEnd
          return ⟨clause, ⟨kind, pieces⟩, [], true⟩
        else return ⟨clause, ⟨kind, pieces⟩, ← readSimples fuel, false⟩
    | none =>
        if !waiting.isEmpty then fail
        match (← readSimples fuel) with
        | first :: more => return ⟨.simple, first, more, false⟩
        | [] => fail

/-- What the tokens of a row hold, or the first token that does not fit. -/
def RowContent.ofTokens
    (tokens : List Token) : Except Token RowContent :=
  (readRow (24 * (tokens.length + 2))).run tokens |>.map Prod.fst

end Tablewright.Layout
