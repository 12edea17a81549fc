import Tablewright.Document.Property

/-!
# Scalars in documents

Three ways to write a text: in quotes, plainly among other things, and as a block of lines. Line
ends inside a scalar are folded into spaces, except in literal blocks.
-/

namespace Tablewright.Document

open Reading

/-- A line end folded: alone it is a space, and before empty lines only these count. A line
separator or paragraph separator stays. -/
def folded
    (lineEnd emptyLines : List Char) : List Char :=
  if lineEnd ≠ ['\n'] then lineEnd ++ emptyLines
  else if emptyLines.isEmpty then [' ']
  else emptyLines

/-! ## Quoted scalars -/

/-- The character that a letter after a backslash stands for. -/
def escaped?
    (c : Char) : Option Char :=
  [('0', '\x00'), ('a', '\x07'), ('b', '\x08'), ('t', '\t'), ('\t', '\t'), ('n', '\n'),
    ('v', '\x0b'), ('f', '\x0c'), ('r', '\r'), ('e', '\x1b'), (' ', ' '), ('"', '"'),
    ('\\', '\\'), ('/', '/'), ('N', '\u0085'), ('_', '\u00a0'), ('L', '\u2028'),
    ('P', '\u2029')].lookup c

/-- The number of hexadecimal digits that follow a letter after a backslash. -/
def escapeWidth?
    (c : Char) : Option Nat :=
  [('x', 2), ('u', 4), ('U', 8)].lookup c

/-- The character of a code point. -/
def characterOfCode
    (code : Nat) : Reading Char :=
  if Nat.pow 2 31 ≤ code then throw (.scalar .characterOverflow)
  else if 0x110000 ≤ code then throw (.scalar .characterRange)
  else return Char.ofNat code

/-- The empty lines of a quoted scalar, up to something else. -/
def emptyLinesInQuotes
    (start : Mark) : Nat → Reading (List Char)
  | 0 => return []
  | fuel + 1 => do
      if (← atSeparator) then fail (some (.quotedScalar, some start)) .separatorInScalar
      discard (takeWhile fun c => c = ' ' || c = '\t')
      match (← lineBreak) with
      | [] => return []
      | lineEnd => return lineEnd ++ (← emptyLinesInQuotes start fuel)

/-- What an escape stands for, of which the backslash comes next. -/
def escape
    (start : Mark) : Reading (List Char) := do
  skip 1
  let next ← peek 0
  match next.bind escaped? with
  | some c =>
      skip 1
      return [c]
  | none =>
      match next.bind escapeWidth? with
      | some width =>
          skip 1
          let code ← hexNumber .doubleQuotedScalar start (.characterEscape width) width
          return [← characterOfCode code]
      | none =>
          if next.any isBreak then
            discard lineBreak
            emptyLinesInQuotes start (← get).rest.length
          else
            fail (some (.doubleQuotedScalar, some start)) (.unknownEscape next)

/-- Whether the character is special between quotes. -/
def isSpecialInQuotes
    (c : Char) : Bool :=
  c = '\'' || c = '"' || c = '\\' || c = ' ' || c = '\t' || isBreak c

/-- The characters of a quoted scalar, up to blanks or its end. -/
def wordInQuotes
    (double : Bool)
    (start : Mark) : Nat → Reading (List Char)
  | 0 => return []
  | fuel + 1 => do
      let run ← takeWhile fun c => !isSpecialInQuotes c
      let next ← peek 0
      if !double && next = some '\'' && (← peek 1) = some '\'' then
        skip 2
        return run ++ '\'' :: (← wordInQuotes double start fuel)
      else if double && next = some '\'' then
        skip 1
        return run ++ '\'' :: (← wordInQuotes double start fuel)
      else if !double && next = some '"' then
        skip 1
        return run ++ '"' :: (← wordInQuotes double start fuel)
      else if !double && next = some '\\' then
        skip 1
        return run ++ '\\' :: (← wordInQuotes double start fuel)
      else if double && next = some '\\' then
        let chars ← escape start
        return run ++ chars ++ (← wordInQuotes double start fuel)
      else return run

/-- The blanks of a quoted scalar, with line ends folded. -/
def blanksInQuotes
    (start : Mark) : Reading (List Char) := do
  let blanks ← takeWhile fun c => c = ' ' || c = '\t'
  if (← peek 0).isNone then fail (some (.quotedScalar, some start)) .unclosedScalar
  match (← lineBreak) with
  | [] => return blanks
  | lineEnd => return folded lineEnd (← emptyLinesInQuotes start ((← get).rest.length + 1))

/-- The rest of a quoted scalar, up to the quote that ends it. -/
def restInQuotes
    (double : Bool)
    (start : Mark) : Nat → Reading (List Char)
  | 0 => return []
  | fuel + 1 => do
      if (← peek 0) = some (if double then '"' else '\'') then
        skip 1
        return []
      else
        let blanks ← blanksInQuotes start
        let word ← wordInQuotes double start ((← get).rest.length + 1)
        return blanks ++ word ++ (← restInQuotes double start fuel)

/-- A scalar in quotes, of which the first quote comes next. -/
def quotedScalar
    (double : Bool) : Reading String := do
  let start ← place
  skip 1
  let word ← wordInQuotes double start ((← get).rest.length + 1)
  return String.ofList (word ++ (← restInQuotes double start ((← get).rest.length + 1)))

/-! ## Plain scalars -/

/-- Whether a plain scalar ends before a character. Inside of flow collections more characters end
it. -/
def endsPlain
    (inFlow : Bool)
    (c : Char)
    (next : Option Char) : Bool :=
  isGap (some c) ||
    (c = ':' && (isGap next || (inFlow && next.any ",[]\x7b\x7d".toList.contains))) ||
    (inFlow && ",?[]\x7b\x7d".toList.contains c)

/-- The number of characters that a plain scalar has before blanks or its end. -/
def plainLength
    (inFlow : Bool) : List Char → Nat
  | [] => 0
  | c :: rest => if endsPlain inFlow c rest.head? then 0 else plainLength inFlow rest + 1

/-- The empty lines in a plain scalar and the spaces on the line after them, unless the document
ends there. -/
def emptyLinesInPlain : Nat → Reading (Option (List Char))
  | 0 => return some []
  | fuel + 1 => do
      if (← atSeparator) then return none
      skipSpaces
      match (← lineBreak) with
      | [] => return some []
      | lineEnd =>
          return (← emptyLinesInPlain fuel).map (lineEnd ++ ·)

/-- The blanks in a plain scalar with line ends folded, unless the document ends there, and whether
a line has ended. -/
def blanksInPlain : Reading (List Char × Bool) := do
  let blanks ← takeWhile (· = ' ')
  match (← lineBreak) with
  | [] => return (blanks, false)
  | lineEnd =>
      match (← emptyLinesInPlain ((← get).rest.length + 1)) with
      | none => return ([], true)
      | some emptyLines => return (folded lineEnd emptyLines, true)

/-- The rest of a plain scalar behind blanks: its characters, the place where they end, and whether
a line has ended since. -/
def plainFrom
    (inFlow : Bool)
    (minColumn : Nat)
    (blanks : List Char)
    (stop : Mark)
    (lineEnded : Bool) : Nat → Reading (List Char × Mark × Bool)
  | 0 => return ([], stop, lineEnded)
  | fuel + 1 => do
      if (← peek 0) = some '#' then return ([], stop, lineEnded)
      let run ← take (plainLength inFlow (← get).rest)
      if run.isEmpty then return ([], stop, lineEnded)
      let stop ← place
      let (between, lineEnded) ← blanksInPlain
      let (more, stop, lineEnded) ←
        if between.isEmpty || (!inFlow && (← place).column < minColumn) then
          pure ([], stop, lineEnded)
        else plainFrom inFlow minColumn between stop lineEnded fuel
      return (blanks ++ run ++ more, stop, lineEnded)

/-- A plain scalar with the place where it ends, and whether a line has ended since. -/
def plainScalar
    (inFlow : Bool)
    (minColumn : Nat) : Reading (String × Mark × Bool) := do
  let (chars, stop, lineEnded) ←
    plainFrom inFlow minColumn [] (← place) false ((← get).rest.length + 1)
  return (String.ofList chars, stop, lineEnded)

/-! ## Block scalars -/

/-- What becomes of the line ends at the end of a block. -/
inductive Chomping where
  | strip
  | clip
  | keep
  deriving Repr, DecidableEq

/-- The chomping that a character asks for. -/
def Chomping.ofChar? : Char → Option Chomping
  | '-' => some .strip
  | '+' => some .keep
  | _ => none

/-- Reads the chomping in the head of a block, if there is one. -/
def chomping? : Reading (Option Chomping) := do
  let chomping? := (← peek 0).bind Chomping.ofChar?
  if chomping?.isSome then skip 1
  return chomping?

/-- Reads the indentation in the head of a block, if there is one. -/
def indentation?
    (start : Mark) : Reading (Option Nat) := do
  match (← peek 0) with
  | some c =>
      if c = '0' then fail (some (.blockScalar, some start)) .zeroIndentation
      else if c.isDigit then
        skip 1
        return some (c.toNat - 48)
      else return none
  | none => return none

/-- The chomping and indentation in the head of a block, in either order. -/
def blockIndicators
    (start : Mark) : Reading (Chomping × Option Nat) := do
  let indicators ←
    match (← chomping?) with
    | some chomping => pure (chomping, ← indentation? start)
    | none =>
        match (← indentation? start) with
        | some indentation => pure ((← chomping?).getD .clip, some indentation)
        | none => pure (.clip, none)
  if endsWord (← peek 0) then return indicators
  else failExpecting .blockScalar start .blockIndicators

/-- Goes past spaces up to a column. -/
def skipIndentation
    (column : Nat) : Reading Unit := do
  let spaces := ((← get).rest.takeWhile (· = ' ')).length
  skip (min spaces (column - (← place).column))

/-- Reads the empty lines of a block whose indentation is known. -/
def emptyLinesInBlock
    (column : Nat) : Nat → Reading (List Char)
  | 0 => return []
  | fuel + 1 => do
      skipIndentation column
      match (← lineBreak) with
      | [] => return []
      | lineEnd => return lineEnd ++ (← emptyLinesInBlock column fuel)

/-- Reads the empty lines of a block whose indentation is not known: the line ends, and the largest
number of spaces before one or before the text. -/
def emptyLinesBeforeBlock : Nat → Reading (List Char × Nat)
  | 0 => return ([], 0)
  | fuel + 1 => do
      let spaces ← takeWhile (· = ' ')
      let reached := (← place).column
      let column := if spaces.isEmpty then 0 else reached
      match (← lineBreak) with
      | [] => return ([], column)
      | lineEnd =>
          let (more, furthest) ← emptyLinesBeforeBlock fuel
          return (lineEnd ++ more, max column furthest)

/-- Whether a line begins with a blank. -/
def startsBlank
    (next : Option Char) : Bool :=
  next.any fun c => c = ' ' || c = '\t'

/-- The lines of a block from one that has text on, behind empty lines. With the text come the last
line end and the empty lines after it. -/
def blockLines
    (isFolded : Bool)
    (column : Nat)
    (emptyLines : List Char) : Nat → Reading (List Char × List Char × List Char)
  | 0 => return ([], [], emptyLines)
  | fuel + 1 => do
      if (← place).column ≠ column || (← peek 0).isNone then return ([], [], emptyLines)
      let indented := startsBlank (← peek 0)
      let line ← takeWhile fun c => !isBreak c
      let lineEnd ← lineBreak
      let nextEmpty ← emptyLinesInBlock column ((← get).rest.length + 1)
      let next ← peek 0
      if (← place).column = column && next.isSome then
        let joint :=
          if isFolded && lineEnd = ['\n'] && !indented && !startsBlank next then
            if nextEmpty.isEmpty then [' '] else []
          else lineEnd
        let (more, lastEnd, lastEmpty) ← blockLines isFolded column nextEmpty fuel
        return (emptyLines ++ line ++ joint ++ more, lastEnd, lastEmpty)
      else return (emptyLines ++ line, lineEnd, nextEmpty)

/-- A block of lines that is indented up to a column at least. -/
def blockScalar
    (isFolded : Bool)
    (minColumn : Nat) : Reading String := do
  let start ← place
  skip 1
  let (chomping, indentation?) ← blockIndicators start
  restOfLine .blockScalar start
  let least := max 1 minColumn
  let fuel := (← get).rest.length + 1
  let (emptyLines, column) ←
    match indentation? with
    | none =>
        let (emptyLines, furthest) ← emptyLinesBeforeBlock fuel
        pure (emptyLines, max least furthest)
    | some indentation =>
        let column := least + indentation - 1
        pure (← emptyLinesInBlock column fuel, column)
  let (text, lastEnd, lastEmpty) ← blockLines isFolded column emptyLines fuel
  let tail :=
    match chomping with
    | .strip => []
    | .clip => lastEnd
    | .keep => lastEnd ++ lastEmpty
  return String.ofList (text ++ tail)

end Tablewright.Document
