import Tablewright.Document.Scalar

/-!
# The tokens of a document

Tokens are read one after the other, with the columns of the open block collections in mind. What
may be the key of a mapping is kept as a candidate: when a colon turns up later on its line, the
sign of a key is put before it. Where reading fails, the tokens before the first candidate that is
still open are known nevertheless.
-/

namespace Tablewright.Document

/-- A place that may turn out to be the beginning of a key: the number of tokens before it, and
whether anything but a key would be wrong there. -/
structure Candidate where
  position : Nat
  isRequired : Bool
  mark : Mark
  deriving Repr, DecidableEq

/-- What has been read: where reading goes on, the tokens, the depth of flow collections, the
columns of open block collections from the innermost on, whether a key may begin here, and the
candidates by the depth at which they stand. -/
structure Progress where
  cursor : Cursor
  tokens : List Token
  depth : Nat
  columns : List Nat
  keyAllowed : Bool
  candidates : List (Nat × Candidate)

namespace Progress

/-- The beginning of a document. A byte order mark does not count as part of it. -/
def start
    (text : List Char) : Progress :=
  let cursor := Cursor.start text
  { cursor := if text.head? = some '\uFEFF' then cursor.skip 1 else cursor
    tokens := []
    depth := 0
    columns := []
    keyAllowed := true
    candidates := [] }

/-- The place that has been reached. -/
def mark
    (progress : Progress) : Mark :=
  progress.cursor.mark

/-- Whether reading is inside of a flow collection. -/
def inFlow
    (progress : Progress) : Bool :=
  progress.depth ≠ 0

/-- The least column of what belongs to the innermost block collection. -/
def minColumn
    (progress : Progress) : Nat :=
  match progress.columns with
  | [] => 0
  | column :: _ => column + 1

/-- Adds a token at the end. -/
def push
    (progress : Progress)
    (token : Token) : Progress :=
  { progress with tokens := progress.tokens ++ [token] }

/-- Adds a token that has no characters of its own. -/
def pushEmpty
    (progress : Progress)
    (kind : TokenKind) : Progress :=
  progress.push ⟨kind, progress.mark, progress.mark⟩

/-- Puts a token that has no characters of its own before a candidate. -/
def insertAt
    (progress : Progress)
    (candidate : Candidate)
    (kind : TokenKind) : Progress :=
  { progress with
    tokens := progress.tokens.take candidate.position ++
      ⟨kind, candidate.mark, candidate.mark⟩ :: progress.tokens.drop candidate.position }

/-- Runs a step that reads characters. -/
def reading
    {α : Type}
    (progress : Progress)
    (step : Reading α) : Except Fault (α × Progress) := do
  let (result, cursor) ← step.run progress.cursor
  return (result, { progress with cursor := cursor })

/-- Reads a token of a kind that has a fixed number of characters. -/
def pushIndicator
    (progress : Progress)
    (kind : TokenKind)
    (width : Nat) : Progress :=
  let cursor := progress.cursor.skip width
  { progress.push ⟨kind, progress.mark, cursor.mark⟩ with cursor := cursor }

/-! ## Candidates -/

/-- Fails unless the candidate may be given up. -/
def giveUp
    (progress : Progress)
    (candidate : Candidate) : Except Fault Unit :=
  if candidate.isRequired then
    .error (.located (some (.simpleKey, some candidate.mark)) .missingColon progress.mark)
  else .ok ()

/-- Whether the candidate is on another line or too far back. -/
def isStale
    (progress : Progress)
    (candidate : Candidate) : Bool :=
  candidate.mark.line ≠ progress.mark.line || 1024 < progress.mark.index - candidate.mark.index

/-- Gives up the candidates that are on another line or too far back. -/
def dropStale
    (progress : Progress) : Except Fault Progress := do
  for (_, candidate) in progress.candidates do
    if progress.isStale candidate then progress.giveUp candidate
  return { progress with
    candidates := progress.candidates.filter fun (_, candidate) => !progress.isStale candidate }

/-- Takes the candidate at the depth that has been reached from the others. -/
def takeCandidate
    (progress : Progress) : Option Candidate × Progress :=
  (progress.candidates.lookup progress.depth,
    { progress with
      candidates := progress.candidates.filter fun (depth, _) => depth ≠ progress.depth })

/-- Gives up the candidate at the depth that has been reached. -/
def dropCandidate
    (progress : Progress) : Except Fault Progress := do
  let (candidate?, others) := progress.takeCandidate
  match candidate? with
  | some candidate =>
      progress.giveUp candidate
      return others
  | none => return others

/-- Makes what comes next a candidate, if a key may begin here. -/
def addCandidate
    (progress : Progress) : Except Fault Progress := do
  if progress.keyAllowed then
    let others ← progress.dropCandidate
    let candidate : Candidate :=
      ⟨progress.tokens.length,
        !progress.inFlow && progress.columns.head? = some progress.mark.column, progress.mark⟩
    return { others with candidates := others.candidates ++ [(progress.depth, candidate)] }
  else return progress

/-! ## Indentation -/

/-- Ends block collections. -/
def closeBlocks
    (progress : Progress)
    (columns : List Nat) : Progress :=
  let closed := progress.columns.length - columns.length
  { progress with
    columns := columns
    tokens := progress.tokens ++
      List.replicate closed ⟨.blockEnd, progress.mark, progress.mark⟩ }

/-- Ends the block collections that stand further to the right than what comes next. -/
def unwind
    (progress : Progress) : Progress :=
  if progress.inFlow then progress
  else progress.closeBlocks (progress.columns.dropWhile fun column => progress.mark.column < column)

/-- Ends all block collections. -/
def unwindAll
    (progress : Progress) : Progress :=
  if progress.inFlow then progress else progress.closeBlocks []

/-- Whether a column lies further to the right than the innermost block collection. -/
def isDeeper
    (progress : Progress)
    (column : Nat) : Bool :=
  progress.columns.head?.all (· < column)

/-- Begins a block collection, if what comes next stands further to the right than the innermost
one. -/
def openBlock
    (progress : Progress)
    (kind : TokenKind) : Progress :=
  let column := progress.mark.column
  if progress.isDeeper column then
    ({ progress with columns := column :: progress.columns }).pushEmpty kind
  else progress

/-! ## Tokens -/

/-- Goes to the next token. Behind a line end in a block a key may begin. -/
def toNextToken
    (progress : Progress) : Nat → Except Fault Progress
  | 0 => return progress
  | fuel + 1 => do
      let (lineEnd, next) ← progress.reading do
        Reading.skipSpaces
        Reading.skipComment
        Reading.lineBreak
      if lineEnd.isEmpty then return next
      else toNextToken { next with keyAllowed := next.keyAllowed || !next.inFlow } fuel

/-- Reads what stands outside of all collections: nothing in it may be a key. -/
def outside
    (progress : Progress) : Except Fault Progress := do
  let progress ← progress.unwindAll.dropCandidate
  return { progress with keyAllowed := false }

/-- Reads the end of the text. -/
def streamEnd
    (progress : Progress) : Except Fault Progress := do
  let progress ← progress.outside
  return { progress with candidates := [] }.pushEmpty .streamEnd

/-- Reads a directive. -/
def directive
    (progress : Progress) : Except Fault Progress := do
  let progress ← progress.outside
  let start := progress.mark
  let ((directive, stop), progress) ← progress.reading Document.directive
  return progress.push ⟨.directive directive, start, stop⟩

/-- Reads a line that begins or ends a document. -/
def separator
    (progress : Progress)
    (kind : TokenKind) : Except Fault Progress := do
  return (← progress.outside).pushIndicator kind 3

/-- Reads the beginning of a flow collection. -/
def flowStart
    (progress : Progress)
    (kind : TokenKind) : Except Fault Progress := do
  let progress ← progress.addCandidate
  return { progress with depth := progress.depth + 1, keyAllowed := true }.pushIndicator kind 1

/-- Reads the end of a flow collection. -/
def flowEnd
    (progress : Progress)
    (kind : TokenKind) : Except Fault Progress := do
  let progress ← progress.dropCandidate
  return { progress with depth := progress.depth - 1, keyAllowed := false }.pushIndicator kind 1

/-- Reads a comma of a flow collection. -/
def flowEntry
    (progress : Progress) : Except Fault Progress := do
  return (← { progress with keyAllowed := true }.dropCandidate).pushIndicator .flowEntry 1

/-- Fails with a problem of what comes next. -/
def misplaced
    {α : Type}
    (progress : Progress)
    (problem : Problem) : Except Fault α :=
  .error (.located none problem progress.mark)

/-- Reads the dash of an item. -/
def blockEntry
    (progress : Progress) : Except Fault Progress := do
  let progress ←
    if progress.inFlow then pure progress
    else if !progress.keyAllowed then progress.misplaced .misplacedEntry
    else pure (progress.openBlock .blockSequenceStart)
  return (← { progress with keyAllowed := true }.dropCandidate).pushIndicator .blockEntry 1

/-- Reads the question mark of a key. -/
def key
    (progress : Progress) : Except Fault Progress := do
  let progress ←
    if progress.inFlow then pure progress
    else if !progress.keyAllowed then progress.misplaced .misplacedKey
    else pure (progress.openBlock .blockMappingStart)
  return (← { progress with keyAllowed := !progress.inFlow }.dropCandidate).pushIndicator .key 1

/-- Reads the colon of a value. If there is a candidate, it was a key. -/
def value
    (progress : Progress) : Except Fault Progress := do
  let (candidate?, others) := progress.takeCandidate
  let progress ←
    match candidate? with
    | some candidate =>
        let column := candidate.mark.column
        let keyed := others.insertAt candidate .key
        let keyed :=
          if !keyed.inFlow && keyed.isDeeper column then
            { keyed with columns := column :: keyed.columns }.insertAt candidate .blockMappingStart
          else keyed
        pure { keyed with keyAllowed := false }
    | none =>
        if progress.inFlow then pure { progress with keyAllowed := false }
        else if !progress.keyAllowed then progress.misplaced .misplacedValue
        else
          let opened := progress.openBlock .blockMappingStart
          Progress.dropCandidate { opened with keyAllowed := true }
  return progress.pushIndicator .value 1

/-- Reads a token that may be a key by itself. -/
def content
    (progress : Progress)
    (step : Reading TokenKind) : Except Fault Progress := do
  let progress ← progress.addCandidate
  let start := progress.mark
  let (kind, progress) ← { progress with keyAllowed := false }.reading step
  return progress.push ⟨kind, start, progress.mark⟩

/-- Reads a block of lines. -/
def block
    (progress : Progress)
    (isFolded : Bool) : Except Fault Progress := do
  let progress ← { progress with keyAllowed := true }.dropCandidate
  let start := progress.mark
  let (text, progress) ← progress.reading (blockScalar isFolded progress.minColumn)
  return progress.push ⟨.scalar text false, start, progress.mark⟩

/-- Reads a plain scalar. -/
def plain
    (progress : Progress) : Except Fault Progress := do
  let progress ← progress.addCandidate
  let start := progress.mark
  let ((text, stop, lineEnded), progress) ←
    progress.reading (plainScalar progress.inFlow progress.minColumn)
  return { progress with keyAllowed := lineEnded }.push ⟨.scalar text true, start, stop⟩

/-- Whether a plain scalar may begin with a character. -/
def startsPlain
    (inFlow : Bool)
    (c : Char)
    (next : Option Char) : Bool :=
  (!isGap (some c) && !"-?:,[]\x7b\x7d#&*!|>'\"%@`".toList.contains c) ||
    (!isGap next && (c = '-' || (!inFlow && (c = '?' || c = ':'))))

/-- Reads the token that begins with a character. -/
def tokenOf
    (progress : Progress)
    (c : Char)
    (next : Option Char) : Except Fault Progress := do
  let atLineStart := progress.mark.column = 0
  let separated := atLineStart &&
    (match Reading.atSeparator.run progress.cursor with
      | .ok (found, _) => found
      | .error _ => false)
  if c = '%' && atLineStart then progress.directive
  else if c = '-' && separated then progress.separator .documentStart
  else if c = '.' && separated then progress.separator .documentEnd
  else if c = '[' then progress.flowStart .flowSequenceStart
  else if c = '\x7b' then progress.flowStart .flowMappingStart
  else if c = ']' then progress.flowEnd .flowSequenceEnd
  else if c = '\x7d' then progress.flowEnd .flowMappingEnd
  else if c = ',' then progress.flowEntry
  else if c = '-' && isGap next then progress.blockEntry
  else if c = '?' && (progress.inFlow || isGap next) then progress.key
  else if c = ':' && (progress.inFlow || isGap next) then progress.value
  else if c = '*' then progress.content do return .alias (← anchorName .alias)
  else if c = '&' then progress.content do return .anchor (← anchorName .anchor)
  else if c = '!' then progress.content do return .tag (← tagText)
  else if c = '|' && !progress.inFlow then progress.block false
  else if c = '>' && !progress.inFlow then progress.block true
  else if c = '\'' then progress.content do return .scalar (← quotedScalar false) false
  else if c = '"' then progress.content do return .scalar (← quotedScalar true) false
  else if startsPlain progress.inFlow c next then progress.plain
  else
    .error (.located (some (.nextToken, none)) (.unusableCharacter c) progress.mark)

/-- Reads the next token, with the ends of block collections before it, and says whether there is
more. -/
def step
    (progress : Progress) : Except Fault (Progress × Bool) := do
  let progress ← progress.toNextToken (progress.cursor.rest.length + 1)
  let progress := (← progress.dropStale).unwind
  match progress.cursor.rest with
  | [] => return (← progress.streamEnd, false)
  | c :: rest =>
      let progress ← progress.tokenOf c rest.head?
      return (← progress.dropStale, true)

/-- The number of tokens that come before all candidates. -/
def settled
    (progress : Progress) : Nat :=
  progress.candidates.foldl (fun least (_, candidate) => min least candidate.position)
    progress.tokens.length

/-- The tokens that can be read, and the fault that ends them, if there is one. -/
def run
    (progress : Progress) : Nat → List Token × Option Fault
  | 0 => (progress.tokens, none)
  | fuel + 1 =>
      match progress.step with
      | .error fault => (progress.tokens.take progress.settled, some fault)
      | .ok (next, true) => run next fuel
      | .ok (next, false) => (next.tokens, none)

end Progress

/-- The tokens of a text, and the fault that ends them, if there is one. -/
def tokensOf
    (text : List Char) : List Token × Option Fault :=
  (Progress.start text).run (text.length + 1)

end Tablewright.Document
