import Tablewright.Layout.Statement

/-!
# The outline of a module

Rows are placed in blocks by their margins. A block opens behind a head, with a greater margin, and
closes before the first row with a smaller one, which has to be the margin of a block around it. Some
heads may only go on with what another one began.
-/

namespace Tablewright.Layout

/-- A remark or a statement in its place. -/
inductive Content where
  | remark (text : String)
  | statement (statement : Statement)
  deriving Repr, DecidableEq

/-- A remark or a statement with how deep it is nested, and how many empty lines stand before it. -/
structure Entry where
  depth : Nat
  blanks : Nat
  content : Content
  deriving Repr, DecidableEq

/-- A block that is open. -/
structure Block where
  margin : Nat
  /-- The clauses that may go on with the last statement. -/
  continuations : List Clause
  /-- Whether one of them has to. -/
  incomplete : Bool
  deriving Repr, DecidableEq

/-- What the last row asks for. -/
inductive Demand where
  | nothing
  /-- A block. -/
  | block
  /-- Something that can be decorated. -/
  | definition
  deriving Repr, DecidableEq

/-- The blocks that are open, the innermost first, and what the last row asks for. -/
structure Outline where
  blocks : List Block
  demand : Demand
  deriving Repr, DecidableEq

namespace Outline

/-- Nothing but the module is open. -/
def start : Outline := ⟨[⟨0, [], false⟩], .nothing⟩

/-- How deep the innermost block is nested. -/
def depth
    (outline : Outline) : Nat :=
  outline.blocks.length - 1

/-- The margin of the innermost block. -/
def margin
    (outline : Outline) : Nat :=
  (outline.blocks.head?.map Block.margin).getD 0

end Outline

/-- The clauses that may follow a clause, and whether one has to. A clause that follows a rescue may
still be followed by a cleanup. -/
def continuationsOf
    (clause : Clause)
    (before : List Clause) : List Clause × Bool :=
  match clause with
  | .condition | .furtherCondition => ([.furtherCondition, .otherwise], false)
  | .loop => ([.otherwise], false)
  | .attempt => ([.rescue, .cleanup], true)
  | .rescue => ([.rescue, .otherwise, .cleanup], false)
  | .otherwise => (before.filter fun other => other = .cleanup, false)
  | _ => ([], false)

/-- Whether a clause goes on with another. -/
def isContinuation : Clause → Bool
  | .furtherCondition | .otherwise | .rescue | .cleanup => true
  | _ => false

/-- Whether a clause may come next in a block. -/
def mayFollow
    (block : Block)
    (clause : Clause) : Bool :=
  if isContinuation clause then block.continuations.contains clause else !block.incomplete

def remarkEntries
    (depth : Nat)
    (remarks : List Remark) : List Entry :=
  remarks.map fun remark => ⟨depth, remark.blanks, .remark remark.text⟩

/-- Closes blocks down to a margin. Remarks that are not nearer to the margin than a block still
belong to it. A block that is incomplete cannot be closed. -/
def closeBlocks
    (margin : Nat) : List Block → List Remark → Option (List Block × List Entry × List Remark)
  | [], remarks => some ([], [], remarks)
  | block :: outer, remarks =>
      if block.margin ≤ margin then some (block :: outer, [], remarks)
      else if block.incomplete then none
      else
        let inside := remarks.takeWhile fun remark => block.margin ≤ remark.margin
        match closeBlocks margin outer (remarks.drop inside.length) with
        | some (blocks, entries, rest) =>
            some (blocks, remarkEntries outer.length inside ++ entries, rest)
        | none => none

/-- Where the first token of a row stands. -/
def Row.position
    (row : Row) : Position :=
  (row.tokens.head?.map Token.position).getD ⟨0, 0⟩

/-- Opens and closes the blocks that the margin of a row asks for. The failure is where the margin does
not fit. -/
def Outline.enter
    (outline : Outline)
    (row : Row) : Except Position (Outline × List Entry) :=
  let position := row.position
  if outline.demand = .block then
    if outline.margin < row.margin then
      let blocks := ⟨row.margin, [], false⟩ :: outline.blocks
      .ok (⟨blocks, .nothing⟩, remarkEntries outline.blocks.length row.remarks)
    else .error position
  else if outline.margin < row.margin then .error ⟨position.line, 0⟩
  else if outline.demand = .definition ∧ outline.margin ≠ row.margin then .error position
  else
    match closeBlocks row.margin outline.blocks row.remarks with
    | some (blocks, entries, remarks) =>
        if (blocks.head?.map Block.margin) = some row.margin then
          .ok (⟨blocks, outline.demand⟩, entries ++ remarkEntries (blocks.length - 1) remarks)
        else .error position
    | none => .error position

/-- The entries of what a row holds. Statements behind the head of a block are nested in it. -/
def contentEntries
    (depth blanks : Nat)
    (content : RowContent) : List Entry :=
  let inner := if content.clause = .simple then depth else depth + 1
  ⟨depth, blanks, .statement content.head⟩ ::
    content.more.map fun statement => ⟨inner, 0, .statement statement⟩

/-- What a clause asks for. -/
def demandOf
    (content : RowContent) : Demand :=
  if content.opensBlock then .block
  else if content.clause = .decorator then .definition
  else .nothing

/-- The clause that the first token of a row begins. -/
def clauseOfToken
    (token : Token) : Clause :=
  if token.isText "@" then .decorator
  else if token.isText "async" then .definition
  else
    match clauses.find? fun (word, _) => token.isText word with
    | some (_, clause, _) => clause
    | none => .simple

/-- Places a row in the innermost block. -/
def Outline.place
    (outline : Outline)
    (row : Row) : Except Position (Outline × List Entry) := do
  match outline.blocks, row.tokens with
  | block :: outer, token :: _ =>
      let clause := clauseOfToken token
      if !mayFollow block clause then .error token.position
      if outline.demand = .definition ∧ clause ≠ .decorator ∧ clause ≠ .definition then
        .error token.position
      let content ← (RowContent.ofTokens row.tokens).mapError Token.position
      let (continuations, incomplete) := continuationsOf content.clause block.continuations
      let block := ⟨block.margin, continuations, incomplete⟩
      return (⟨block :: outer, demandOf content⟩, contentEntries outline.depth row.blanks content)
  | _, _ => return (outline, [])

/-- Places rows. -/
def Outline.placeAll
    (outline : Outline) : List Row → Except Position (Outline × List Entry)
  | [] => .ok (outline, [])
  | row :: rest => do
      let (outline, before) ← outline.enter row
      let (outline, own) ← outline.place row
      let (outline, after) ← outline.placeAll rest
      return (outline, before ++ own ++ after)

/-- The entries of a sheet, or where something does not fit. -/
def entriesOfSheet
    (sheet : Sheet) : Except Position (List Entry) := do
  let (outline, entries) ← Outline.start.placeAll sheet.rows
  if outline.demand ≠ .nothing then .error sheet.ending
  match closeBlocks 0 outline.blocks sheet.remarks with
  | some ([block], last, remarks) =>
      if block.incomplete then .error sheet.ending
      return entries ++ last ++ remarkEntries 0 remarks
  | _ => .error sheet.ending

end Tablewright.Layout
