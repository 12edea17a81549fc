import Tablewright.Layout.Literal
import Tablewright.Layout.Piece

/-!
# Expressions of a module

Tokens are read as expressions, from which come pieces with the blanks that belong between them. A
reader stops at the first token that nothing can go on with.
-/

namespace Tablewright.Layout

/-- Reads tokens. A failure is the token that does not fit. -/
abbrev Reader := StateT (List Token) (Except Token)

/-- The words that are no names. -/
def reserved : List String :=
  ["and", "as", "assert", "async", "await", "break", "class", "continue", "def", "del", "elif",
    "else", "except", "finally", "for", "from", "global", "if", "import", "in", "is", "lambda",
    "nonlocal", "not", "or", "pass", "raise", "return", "try", "while", "with", "yield"]

namespace Reader

/-- The next token. -/
def peek : Reader Token := do
  match (← get) with
  | token :: _ => return token
  | [] => return ⟨.moduleEnd, "", ⟨0, 0⟩, [], []⟩

/-- The next token does not fit. -/
def fail
    {α : Type} : Reader α := do
  throw (← peek)

/-- Whether the next token is a sign or word. -/
def isNext
    (text : String) : Reader Bool := do
  return (← peek).isText text

/-- Whether the next token is one of the signs or words. -/
def isNextOf
    (texts : List String) : Reader Bool := do
  let token ← peek
  return texts.any token.isText

def pieceOf
    (token : Token) : Piece :=
  let piece :=
    match token.kind with
    | .word => Piece.plain .word token.text
    | .number => Piece.plain .number (standardNumber token.text)
    | .literal => Piece.plain .literal (standardLiteral token.text)
    | _ => Piece.plain .sign token.text
  { piece with leading := token.leading, remarks := token.remarks }

/-- Takes the next token. -/
def take : Reader Piece := do
  let token ← peek
  set ((← get).drop 1)
  return pieceOf token

/-- Takes a sign or word. -/
def expect
    (text : String) : Reader Piece := do
  if (← isNext text) then take else fail

/-- Takes a name that is not reserved. -/
def definable : Reader Piece := do
  let token ← peek
  if token.kind = .word && !reserved.contains token.text then take else fail

/-- Takes a sign or word, if it comes next. -/
def takeIf
    (text : String) : Reader (Option Piece) := do
  if (← isNext text) then return some (← take) else return none

end Reader

/-- What a list between commas holds. -/
inductive ItemKind where
  | element
  | entry
  | argument
  | slice
  | parameter
  /-- A parameter that cannot say what it holds. -/
  | bareParameter
  deriving Repr, DecidableEq

/-- The signs between operands, from those that bind least, each with the priority of a break before
it. -/
def operatorLevels : List (List (String × Nat)) :=
  [[("|", 9)], [("^", 8)], [("&", 7)], [("<<", 6), (">>", 6)], [("+", 5), ("-", 5)],
    [("*", 4), ("/", 4), ("//", 4), ("%", 4), ("@", 4)]]

def comparisonSigns : List String :=
  ["<", ">", "==", ">=", "<=", "!="]

/-- What cannot begin another item behind a comma. -/
def isListEnd
    (token : Token) : Bool :=
  token.kind = .rowEnd || token.kind = .moduleEnd ||
    ["=", ";", ":", ")", "]", "\x7d", "in", "+=", "-=", "*=", "/=", "//=", "%=", "@=", "&=", "|=",
      "^=", "<<=", ">>=", "**="].any token.isText

/-- Whether an operand is so short that a power of it is written without blanks. -/
def isSimpleOperand
    (pieces : List Piece) : Bool :=
  let body :=
    match pieces with
    | first :: rest => if first.text == "-" then rest else pieces
    | [] => []
  let isNumber :=
    match body with
    | [piece] => piece.kind = .number
    | _ => false
  isNumber ||
    (body.length = pieces.length && !pieces.isEmpty && pieces.all fun piece =>
      (piece.kind = .word && !reserved.contains piece.text) || piece.text == ".")

/-- Whether a part of a slice is more than a name, a number or a literal. -/
def isComplexPart
    (pieces : List Piece) : Bool :=
  match pieces with
  | [] => false
  | [_] => false
  | first :: rest => !(["-", "+", "~"].contains first.text && rest.length = 1)

/-- A slice from its parts, each with the colon before it if it has one. Around complex parts colons
have blanks. -/
def slicePieces
    (parts : List (Option Piece × List Piece)) : List Piece :=
  let complex := parts.any fun (_, part) => isComplexPart part
  let rec join (afterPart : Bool) : List (Option Piece × List Piece) → List Piece
    | [] => []
    | (colon?, part) :: rest =>
        let colon :=
          match colon? with
          | some colon => [{ colon with spaced := complex && afterPart }]
          | none => []
        let body := if complex && colon?.isSome then spaceFirst part else part
        colon ++ body ++ join (!part.isEmpty) rest
  join false parts

/-- The spacing of a comma-separated list that goes on behind a comma. -/
def joinItems
    (first : List Piece)
    (comma : Piece)
    (rest : List Piece) : List Piece :=
  first ++ { comma with priority := Priority.comma } :: spaceFirst rest

open Reader

mutual

/-- An expression, or an assignment inside one. -/
def readNamed : Nat → Reader (List Piece)
  | 0 => fail
  | fuel + 1 => do
      let left ← readChoice fuel
      match (← takeIf ":=") with
      | some sign => return left ++ sign.withSpace :: spaceFirst (← readChoice fuel)
      | none => return left
  termination_by structural fuel => fuel

/-- A choice between two expressions, a function without a name, or an expression that is neither. -/
def readChoice : Nat → Reader (List Piece)
  | 0 => fail
  | fuel + 1 => do
      match (← takeIf "lambda") with
      | some word =>
          let parameters ← readItems fuel .bareParameter ":"
          let colon ← expect ":"
          return word :: spaceFirst (unmark parameters) ++ colon :: spaceFirst (← readChoice fuel)
      | none =>
          let left ← readLogic fuel "or"
          match (← takeIf "if") with
          | some word =>
              let condition ← readLogic fuel "or"
              let other ← expect "else"
              return markLast Priority.choice left ++ word.withSpace ::
                markLast Priority.choice (spaceFirst condition) ++ other.withSpace ::
                spaceFirst (← readChoice fuel)
          | none => return left
  termination_by structural fuel => fuel

/-- Expressions between logical connectives. -/
def readLogic : Nat → String → Reader (List Piece)
  | 0, _ => fail
  | fuel + 1, word => do
      let left ← if word = "or" then readLogic fuel "and" else readNegation fuel
      readLogicRest fuel word left
  termination_by structural fuel => fuel

/-- What follows the first operand of a logical connective. -/
def readLogicRest : Nat → String → List Piece → Reader (List Piece)
  | 0, _, _ => fail
  | fuel + 1, word, left => do
      match (← takeIf word) with
      | some piece =>
          let right ← if word = "or" then readLogic fuel "and" else readNegation fuel
          readLogicRest fuel word
            (markLast Priority.logic left ++ piece.withSpace :: spaceFirst right)
      | none => return left
  termination_by structural fuel => fuel

/-- A negation, or a comparison. -/
def readNegation : Nat → Reader (List Piece)
  | 0 => fail
  | fuel + 1 => do
      match (← takeIf "not") with
      | some word => return word :: spaceFirst (← readNegation fuel)
      | none => readComparisonRest fuel (← readOperators fuel operatorLevels)
  termination_by structural fuel => fuel

/-- What follows the first operand of comparisons. -/
def readComparisonRest : Nat → List Piece → Reader (List Piece)
  | 0, _ => fail
  | fuel + 1, left => do
      let token ← peek
      if comparisonSigns.any token.isText || token.isText "in" then
        let sign ← take
        readComparisonRest fuel (markLast Priority.comparison left ++ sign.withSpace ::
          spaceFirst (← readOperators fuel operatorLevels))
      else if token.isText "not" then
        let first ← take
        let second ← expect "in"
        readComparisonRest fuel (markLast Priority.comparison left ++ first.withSpace ::
          second.withSpace :: spaceFirst (← readOperators fuel operatorLevels))
      else if token.isText "is" then
        let first ← take
        let second := (← takeIf "not").toList.map Piece.withSpace
        readComparisonRest fuel (markLast Priority.comparison left ++ first.withSpace :: second ++
          spaceFirst (← readOperators fuel operatorLevels))
      else return left
  termination_by structural fuel => fuel

/-- Operands between signs of some levels. -/
def readOperators : Nat → List (List (String × Nat)) → Reader (List Piece)
  | 0, _ => fail
  | fuel + 1, [] => readFactor fuel
  | fuel + 1, level :: levels => do
      readOperatorsRest fuel level levels (← readOperators fuel levels)
  termination_by structural fuel => fuel

/-- What follows the first operand between signs of a level. -/
def readOperatorsRest :
    Nat → List (String × Nat) → List (List (String × Nat)) → List Piece → Reader (List Piece)
  | 0, _, _, _ => fail
  | fuel + 1, level, levels, left => do
      let token ← peek
      match level.find? fun (text, _) => token.isText text with
      | some (_, priority) =>
          let sign ← take
          let right ← readOperators fuel levels
          readOperatorsRest fuel level levels
            (markLast priority left ++ sign.withSpace :: spaceFirst right)
      | none => return left
  termination_by structural fuel => fuel

/-- An operand with signs before it, or a power. -/
def readFactor : Nat → Reader (List Piece)
  | 0 => fail
  | fuel + 1 => do
      if (← isNextOf ["+", "-", "~"]) then
        let sign ← take
        return sign :: (← readFactor fuel)
      else
        let waiting := (← takeIf "await").toList
        let base ← readTrailers fuel (← readAtom fuel)
        let base := if waiting.isEmpty then base else waiting ++ spaceFirst base
        match (← takeIf "**") with
        | some sign =>
            let exponent ← readFactor fuel
            if isSimpleOperand base && isSimpleOperand exponent then
              return markLast 2 base ++ sign :: exponent
            else return markLast 2 base ++ sign.withSpace :: spaceFirst exponent
        | none => return base
  termination_by structural fuel => fuel

/-- What follows an atom: calls, indices and members. -/
def readTrailers : Nat → List Piece → Reader (List Piece)
  | 0, _ => fail
  | fuel + 1, left => do
      let token ← peek
      if token.isText "(" then
        readTrailers fuel (left ++ (← readBrackets fuel .argument .arguments ")"))
      else if token.isText "[" then
        readTrailers fuel (left ++ (← readBrackets fuel .slice .index "]"))
      else if token.isText "." then
        let dot ← take
        let isName := left.getLast?.any fun piece => piece.kind = .word
        let left := if isName then left else markLast Priority.dot left
        readTrailers fuel (left ++ [dot, ← definable])
      else return left
  termination_by structural fuel => fuel

/-- Brackets with items between commas. -/
def readBrackets : Nat → ItemKind → BracketRole → String → Reader (List Piece)
  | 0, _, _, _ => fail
  | fuel + 1, kind, role, closing => do
      let first ← take
      let items ← readItems fuel kind closing
      if kind = .slice && items.isEmpty then fail
      let last ← expect closing
      return { first with bracket := .opening role } :: items ++
        [{ last with bracket := .closing role }]
  termination_by structural fuel => fuel

/-- A name, a literal, or something in brackets. -/
def readAtom : Nat → Reader (List Piece)
  | 0 => fail
  | fuel + 1 => do
      let token ← peek
      match token.kind with
      | .word => if reserved.contains token.text then fail else return [← take]
      | .number => return [← take]
      | .literal => readLiterals fuel [← take]
      | .sign =>
          if token.text = "(" then
            let first ← take
            let items ←
              if (← isNext "yield") then readYield fuel else readItems fuel .element ")"
            let last ← expect ")"
            return { first with bracket := .opening .grouping } :: items ++
              [{ last with bracket := .closing .grouping }]
          else if token.text = "[" then readBrackets fuel .element .list "]"
          else if token.text = "\x7b" then readBrackets fuel .entry .braces "\x7d"
          else if token.text = "..." then return [← take]
          else fail
      | _ => fail
  termination_by structural fuel => fuel

/-- Literals that stand side by side. -/
def readLiterals : Nat → List Piece → Reader (List Piece)
  | 0, _ => fail
  | fuel + 1, left => do
      if (← peek).kind = .literal then
        readLiterals fuel (markLast Priority.literal left ++ [(← take).withSpace])
      else return left
  termination_by structural fuel => fuel

/-- What a generator hands over. -/
def readYield : Nat → Reader (List Piece)
  | 0 => fail
  | fuel + 1 => do
      let word ← expect "yield"
      match (← takeIf "from") with
      | some source => return word :: source.withSpace :: spaceFirst (← readChoice fuel)
      | none =>
          if isListEnd (← peek) then return [word]
          else return word :: spaceFirst (← readList fuel)
  termination_by structural fuel => fuel

/-- Items between commas up to a closing sign, which is left. -/
def readItems : Nat → ItemKind → String → Reader (List Piece)
  | 0, _, _ => fail
  | fuel + 1, kind, closing => do
      if (← isNext closing) then return []
      else
        let first ← readItem fuel kind
        match (← takeIf ",") with
        | some comma => return joinItems first comma (← readItems fuel kind closing)
        | none => return first
  termination_by structural fuel => fuel

def readItem : Nat → ItemKind → Reader (List Piece)
  | 0, _ => fail
  | fuel + 1, kind => do
      match kind with
      | .element =>
          if (← isNext "*") then readStarred fuel
          else readComprehension fuel (← readNamed fuel)
      | .entry =>
          if (← isNext "*") then readStarred fuel
          else if (← isNext "**") then
            let sign ← take
            return sign :: (← readOperators fuel operatorLevels)
          else
            let key ← readNamed fuel
            match (← takeIf ":") with
            | some colon =>
                readComprehension fuel (key ++ colon :: spaceFirst (← readChoice fuel))
            | none => readComprehension fuel key
      | .argument =>
          if (← isNextOf ["*", "**"]) then
            let sign ← take
            return sign :: (← readChoice fuel)
          else
            let left ← readNamed fuel
            match (← takeIf "=") with
            | some sign => return left ++ sign :: (← readChoice fuel)
            | none => readComprehension fuel left
      | .slice =>
          if (← isNext "*") then readStarred fuel
          else
            let first ← if (← isNext ":") then pure [] else readNamed fuel
            return slicePieces ((none, first) :: (← readSliceRest fuel 2))
      | .parameter | .bareParameter =>
          if (← isNext "/") then return [← take]
          else
            let signs ← if (← isNextOf ["*", "**"]) then pure [← take] else pure []
            let token ← peek
            if (signs.map Piece.text == ["*"]) && token.isText "," then return signs
            else
              let left := signs ++ [← definable]
              let annotated ←
                if kind = .parameter then
                  match (← takeIf ":") with
                  | some colon => pure (colon :: spaceFirst (← readChoice fuel))
                  | none => pure []
                else pure []
              let left := left ++ annotated
              match (← takeIf "=") with
              | some sign =>
                  let value ← readChoice fuel
                  if annotated.isEmpty then return left ++ sign :: value
                  else return left ++ sign.withSpace :: spaceFirst value
              | none => return left
  termination_by structural fuel => fuel

/-- The parts of a slice that begin with a colon. -/
def readSliceRest : Nat → Nat → Reader (List (Option Piece × List Piece))
  | 0, _ => fail
  | _ + 1, 0 => return []
  | fuel + 1, more + 1 => do
      match (← takeIf ":") with
      | some colon =>
          let part ← if (← isNextOf [":", ",", "]"]) then pure [] else readChoice fuel
          return (some colon, part) :: (← readSliceRest fuel more)
      | none => return []
  termination_by structural fuel => fuel

/-- An expression of which the items are taken one by one. -/
def readStarred : Nat → Reader (List Piece)
  | 0 => fail
  | fuel + 1 => do
      let sign ← expect "*"
      return sign :: (← readOperators fuel operatorLevels)
  termination_by structural fuel => fuel

/-- The parts of a comprehension, if the expression is the beginning of one. -/
def readComprehension : Nat → List Piece → Reader (List Piece)
  | 0, _ => fail
  | fuel + 1, left => do
      if (← isNextOf ["for", "async"]) then
        let waiting := (← takeIf "async").toList.map Piece.withSpace
        let word ← expect "for"
        let targets ← readTargets fuel
        let preposition ← expect "in"
        let source ← readLogic fuel "or"
        let part := waiting ++ word.withSpace :: spaceFirst (unmark targets) ++
          preposition.withSpace :: spaceFirst source
        readComprehension fuel (markLast Priority.comprehension left ++ part)
      else if (← isNext "if") then
        let word ← take
        let condition ← readLogic fuel "or"
        readComprehension fuel
          (markLast Priority.comprehension left ++ word.withSpace :: spaceFirst condition)
      else return left
  termination_by structural fuel => fuel

/-- What a loop runs over its items with. -/
def readTargets : Nat → Reader (List Piece)
  | 0 => fail
  | fuel + 1 => do
      let first ←
        if (← isNext "*") then readStarred fuel else readOperators fuel operatorLevels
      match (← takeIf ",") with
      | some comma =>
          if isListEnd (← peek) then return first ++ [comma]
          else return joinItems first comma (← readTargets fuel)
      | none => return first
  termination_by structural fuel => fuel

/-- Expressions between commas. -/
def readList : Nat → Reader (List Piece)
  | 0 => fail
  | fuel + 1 => do
      let first ← if (← isNext "*") then readStarred fuel else readNamed fuel
      match (← takeIf ",") with
      | some comma =>
          if isListEnd (← peek) then
            return first ++ [{ comma with priority := Priority.comma }]
          else return joinItems first comma (← readList fuel)
      | none => return first
  termination_by structural fuel => fuel

end

end Tablewright.Layout
