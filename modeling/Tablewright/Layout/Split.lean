import Tablewright.Layout.Line

/-!
# Breaking lines

A line that is too long is broken at brackets: the head of a function at its first ones, all else at
the last ones that leave a first line of the right length. What stands in brackets gets a line of its
own and, if it is still too long, is broken again, where breaks have the greatest priority. Hidden
brackets are tried first, and are written where the expression reads better in brackets of its own.
-/

namespace Tablewright.Layout

/-- A line that is cut at brackets. The head ends in the opening bracket and the tail begins with the
closing one. -/
structure Cut where
  head : List Piece
  role : BracketRole
  body : List Piece
  tail : List Piece
  deriving Repr, DecidableEq

/-- The pieces back to the bracket that opens the innermost one, in reverse, and the rest. -/
def splitAtOpening : Nat → List Piece → List Piece × List Piece
  | _, [] => ([], [])
  | depth, piece :: rest =>
      match piece.bracket, depth with
      | .opening _, 0 => ([], piece :: rest)
      | .opening _, depth + 1 =>
          let (inner, before) := splitAtOpening depth rest
          (piece :: inner, before)
      | .closing _, depth =>
          let (inner, before) := splitAtOpening (depth + 1) rest
          (piece :: inner, before)
      | .plain, depth =>
          let (inner, before) := splitAtOpening depth rest
          (piece :: inner, before)

/-- Whether the piece is a hidden bracket. -/
def isHidden
    (piece : Piece) : Bool :=
  (piece.bracket = .opening .hidden || piece.bracket = .closing .hidden ||
    piece.bracket = .opening .imports || piece.bracket = .closing .imports) && piece.text == ""

/-- Cuts at the last brackets that hold something, of pieces in reverse. The first `skip` written
pieces are passed over. -/
def cutReversed : Nat → Nat → List Piece → List Piece → Option Cut
  | 0, _, _, _ => none
  | _ + 1, _, _, [] => none
  | fuel + 1, skip, tail, piece :: rest =>
      let hidden := isHidden piece
      let pass := cutReversed fuel (if hidden then skip else skip - 1) (piece :: tail) rest
      match piece.bracket with
      | .closing role =>
          if 0 < skip ∧ !hidden then pass
          else
            match splitAtOpening 0 rest with
            | (body, opening :: before) =>
                if body.isEmpty then
                  cutReversed fuel (skip - 2) (opening :: piece :: tail) before
                else some ⟨(opening :: before).reverse, role, body.reverse, piece :: tail⟩
            | _ => none
      | _ => pass

/-- Cuts at the last brackets that hold something. The last `skip` written pieces are passed over. -/
def cutLast?
    (skip : Nat)
    (pieces : List Piece) : Option Cut :=
  cutReversed (pieces.length + 1) skip [] pieces.reverse

/-- Cuts at the first brackets with a spelling that hold something. -/
def cutFirst?
    (text : String) : List Piece → List Piece → Option Cut
  | _, [] => none
  | before, piece :: rest =>
      match piece.bracket with
      | .opening role =>
          match splitAtClosing 0 rest with
          | (body, closing :: after) =>
              if piece.text == text && !body.isEmpty then
                some ⟨before ++ [piece], role, body, closing :: after⟩
              else cutFirst? text (before ++ [piece]) rest
          | _ => none
      | _ => cutFirst? text (before ++ [piece]) rest

/-! ## The lines of a cut -/

/-- The piece as it is written: a hidden bracket becomes one that is seen. -/
def reveal
    (piece : Piece) : Piece :=
  if isHidden piece then { piece with text := if piece.isOpening then "(" else ")" } else piece

def revealLast
    (pieces : List Piece) : List Piece :=
  match pieces.reverse with
  | last :: before => (reveal last :: before).reverse
  | [] => []

def revealFirst : List Piece → List Piece
  | [] => []
  | piece :: rest => reveal piece :: rest

/-- A comma that a break may stand behind. -/
def breakingComma : Piece :=
  { Piece.plain .sign "," with priority := Priority.comma }

/-- A comma is added behind the last item, before the remarks behind it. -/
def addComma
    (items : List Piece) : List Piece :=
  let remarks := (items.reverse.takeWhile Piece.isRemark).reverse
  items.take (items.length - remarks.length) ++ breakingComma :: remarks

/-- Whether items in brackets are put on lines of their own wherever they are broken. -/
def explodes
    (role : BracketRole)
    (items : List Piece) : Bool :=
  let ends := items.getLast?.any Piece.isComma
  let others := if ends then items.dropLast else items
  Line.maxPriority (outerPieces others) = Priority.comma &&
    (ends || (role ≠ .arguments && role ≠ .index))

/-- The line of a body. The names of an import, and a single parameter, get a comma behind them. -/
def bodyLine
    (line : Line)
    (cut : Cut) : Line :=
  let addsComma :=
    (line.isImport || (line.isFunction && !cut.body.any Piece.isComma)) &&
      !cut.body.getLast?.any Piece.isComma
  let items := if addsComma then addComma cut.body else cut.body
  { depth := line.depth + 1
    part := .body
    isFunction := false
    isImport := false
    exploded := explodes cut.role items
    pieces := items }

def headLine
    (line : Line)
    (cut : Cut) : Line :=
  { line with part := .head, exploded := false, pieces := revealLast cut.head }

def tailLine
    (line : Line)
    (cut : Cut) : Line :=
  { depth := line.depth
    part := .tail
    isFunction := false
    isImport := false
    exploded := false
    pieces := revealFirst cut.tail }

def cutLines
    (line : Line)
    (cut : Cut) : List Line :=
  [headLine line cut, bodyLine line cut, tailLine line cut]

/-- The head of a function, broken at its parameters. -/
def splitFunction
    (line : Line) : Option (List Line) :=
  (cutFirst? "(" [] line.pieces <|> cutFirst? "[" [] line.pieces).map (cutLines line)

/-! ## Breaks of greatest priority -/

/-- The pieces, cut behind those outer ones that have a priority, and around remarks on lines of their
own. -/
def groupsAt
    (priority : Nat) : List (Nat × Piece) → List (List Piece)
  | [] => []
  | (depth, piece) :: rest =>
      let groups := groupsAt priority rest
      let ends := depth = 0 && 0 < priority && piece.priority = priority
      let isApart :=
        match rest with
        | (nextDepth, next) :: _ =>
            (depth = 0 && piece.isRemark) || (nextDepth = 0 && next.isRemark)
        | [] => false
      if ends || isApart then [piece] :: groups
      else
        match groups with
        | group :: others => (piece :: group) :: others
        | [] => [[piece]]

/-- The last group that is no remark ends in a comma. -/
def endInComma : List (List Piece) → List (List Piece)
  | [] => []
  | group :: rest =>
      if rest.all fun other => other.all Piece.isRemark then
        (if group.getLast?.any Piece.isComma then group else group ++ [breakingComma]) :: rest
      else group :: endInComma rest

/-- A line in brackets, broken where breaks have the greatest priority. -/
def splitAtPriority
    (line : Line) : Option (List Line) :=
  let outer := outerPieces line.pieces
  let priority := Line.maxPriority (outerPieces line.pieces.dropLast)
  let count := (outer.filter fun piece => piece.priority = priority).length
  let isStuck := priority = 0 ∨ (priority = Priority.dot ∧ count = 1)
  if isStuck ∧ !outer.any Piece.isRemark then none
  else
    let groups := groupsAt priority (withDepths 0 line.pieces)
    let groups := if priority = Priority.comma then endInComma groups else groups
    some (groups.map fun group =>
      { line with exploded := false, pieces := tightFirst group })

/-! ## Hidden brackets -/

/-- Whether a line can be broken further. -/
def canBeBroken
    (pieces : List Piece) : Bool :=
  2 ≤ pieces.length

/-- The width of a piece with the blank before it and the remarks behind it. -/
def pieceWidth
    (piece : Piece) : Nat :=
  Text.width piece.text + (if piece.spaced then 1 else 0) +
    piece.remarks.foldl (fun width remark => width + Text.width remark + 2) 0

/-- The width of pieces with their blanks and remarks. -/
def piecesWidth
    (pieces : List Piece) : Nat :=
  pieces.foldl (fun width piece => width + pieceWidth piece) 0

/-- Whether what stands up to the bracket that the last one closes fits, or holds brackets to break
at. -/
def endsWell
    (depth : Nat)
    (pieces : List Piece) : Bool :=
  match pieces.reverse with
  | _ :: before =>
      match splitAtOpening 0 before with
      | (_, opening :: earlier) =>
          earlier.any Piece.isOpening ||
            4 * depth + piecesWidth (opening :: earlier) ≤ lineWidth
      | _ => false
  | [] => false

/-- Whether what stands from the closing bracket of the first one on fits, or holds no brackets to
break at. -/
def beginsWell
    (depth : Nat)
    (pieces : List Piece) : Bool :=
  match pieces with
  | _ :: rest =>
      let (_, after) := splitAtClosing 0 rest
      !after.any Piece.isOpening && 4 * depth + piecesWidth after ≤ lineWidth
  | [] => false

/-- Whether an expression may do without the hidden brackets around it. -/
def mayStayHidden
    (depth : Nat)
    (body : List Piece) : Bool :=
  let outer := outerPieces body
  let priority := Line.maxPriority outer
  let count := (outer.filter fun piece => piece.priority = priority).length
  if outer.any Piece.isRemark then false
  else if priority = 0 then true
  else if 1 < count then false
  else if priority = Priority.dot then true
  else
    let opensEmpty :=
      match body with
      | first :: second :: _ => first.isOpening && second.isClosing
      | _ => false
    if opensEmpty && beginsWell depth body then true
    else
      match body.reverse with
      | last :: penultimate :: _ =>
          let isEnd := last.isClosing && last.bracket ≠ .closing .index
          if !(isEnd || hasKeptComma body) then false
          else if penultimate.isOpening then false
          else if (body.head?.map fun piece => isLongLiteral [piece]).getD false then true
          else endsWell depth body
      | _ => false

/-- Whether the piece is the sign of an assignment. -/
def isAssignment
    (piece : Piece) : Bool :=
  piece.kind = .sign && piece.text == "="

/-- Whether a cut without the hidden brackets is better than one at them. Where an assignment has
brackets on its left, it depends on what the first line would be. -/
def prefersBare
    (line : Line)
    (bare cut : Cut) : Bool :=
  let target := cut.head.dropLast
  let head := { headLine line cut with pieces := cut.head }
  if !target.getLast?.any isAssignment then true
  else if !target.any Piece.isBracket then true
  else if !head.fitsIn (lineWidth - 1) then true
  else if hasKeptComma cut.head then true
  else
    let afterSign := bare.head.reverse.takeWhile fun piece => !isAssignment piece
    afterSign.any Piece.isClosing ||
      (bare.head.any isAssignment && (headLine line bare).fits)

/-- The pieces without the hidden brackets that a cut is made at. -/
def withoutBrackets
    (cut : Cut) : List Piece :=
  let space (pieces : List Piece) : List Piece :=
    if cut.head.getLast?.any Piece.spaced then spaceFirst pieces else pieces
  cut.head.dropLast ++ space cut.body ++ cut.tail.drop 1

/-- A line, broken at its last brackets; the first part says whether hidden brackets are written. With
`force` they are wherever they stand. -/
def splitLast : Nat → Bool → Nat → Line → Option (Bool × List Line)
  | 0, _, _, _ => none
  | fuel + 1, force, skip, line =>
      match cutLast? skip line.pieces with
      | none => none
      | some cut =>
          let seen := some (decide (cut.role = .hidden), cutLines line cut)
          if force || cut.role ≠ .hidden || !mayStayHidden (line.depth + 1) cut.body then seen
          else
            let plain := { line with pieces := withoutBrackets cut }
            let fallBack :=
              if canBeBroken cut.body || (bodyLine line cut).fits then seen else none
            match cutLast? skip plain.pieces with
            | none => fallBack
            | some bare =>
                if prefersBare line bare cut then
                  match splitLast fuel force skip plain with
                  | some lines => some lines
                  | none => fallBack
                else seen

/-! ## Brackets that are passed over -/

/-- The numbers of written pieces at the end of a line that may be passed over, of pieces in reverse:
each ends before brackets that others follow. -/
def skipsReversed : Nat → Nat → Nat → Bool → List Piece → List Nat
  | 0, _, _, _, _ => []
  | _ + 1, _, _, _, [] => []
  | fuel + 1, width, count, found, piece :: rest =>
      let width := width + pieceWidth piece
      let next := if isHidden piece then count else count + 1
      if lineWidth < width then []
      else if !piece.isClosing then skipsReversed fuel width next found rest
      else
        match rest with
        | [] => []
        | previous :: _ =>
            if previous.isOpening then skipsReversed fuel width next found rest
            else
              let (inner, after) := splitAtOpening 0 rest
              let here := if found then [count] else []
              if hasKeptComma ((piece :: inner ++ after.take 1).reverse) &&
                  previous.isComma then here
              else if isHidden piece then here ++ skipsReversed fuel width next found rest
              else
                let innerWidth := width + piecesWidth inner
                here ++
                  (if lineWidth < innerWidth then []
                  else skipsReversed fuel innerWidth (next + inner.length) true after)

/-- The numbers of written pieces at the end of a line that may be passed over. -/
def skipsOf
    (line : Line) : List Nat :=
  (if line.asksForLines then [] else [0]) ++
    skipsReversed (line.pieces.length + 1) (4 * line.depth) 0 false line.pieces.reverse

/-- A line, broken at the last brackets that leave a first line that fits. -/
def splitRight
    (force : Bool)
    (line : Line) : Option (Bool × List Line) :=
  let fuel := line.pieces.length + 1
  let rec attempt : List Nat → Option (Bool × List Line)
    | [] => splitLast fuel force 0 line
    | skip :: rest =>
        match splitLast fuel force skip line with
        | none => none
        | some (written, lines) =>
            if (lines.head?.map Line.fits).getD false then some (written, lines) else attempt rest
  attempt (skipsOf line)

/-! ## All lines of a statement -/

mutual

/-- The lines that a line is broken into. With `force` hidden brackets are written. -/
def arrange : Nat → Bool → Line → List Line
  | 0, _, line => [line]
  | fuel + 1, force, line =>
      if line.fits && !line.asksForLines then [line]
      else if line.isFunction then (arrangeAll fuel force line (splitFunction line)).getD [line]
      else
        let atPriority :=
          if line.part = .body then arrangeAll fuel force line (splitAtPriority line) else none
        match atPriority with
        | some lines => lines
        | none => (arrangeRight fuel force line).getD [line]

/-- The lines of the lines that a line was broken into, unless one of them is that line. -/
def arrangeAll : Nat → Bool → Line → Option (List Line) → Option (List Line)
  | 0, _, _, _ => none
  | _ + 1, _, _, none => none
  | fuel + 1, force, line, some lines =>
      let lines := lines.filter fun part => !part.pieces.isEmpty
      if lines.any fun part => part.text == line.text then none
      else some (lines.flatMap fun part => arrange fuel force part)

/-- The lines of a line that is broken at its last brackets. Where its first line is too long, hidden
brackets are written if all lines fit then. -/
def arrangeRight : Nat → Bool → Line → Option (List Line)
  | 0, _, _ => none
  | fuel + 1, force, line =>
      match splitRight force line with
      | none => none
      | some (written, lines) =>
          match arrangeAll fuel force line (some lines) with
          | none => none
          | some result =>
              if force || written || !line.pieces.any isHidden ||
                  (result.head?.map Line.fits).getD false then some result
              else
                match splitRight true line with
                | none => some result
                | some (_, others) =>
                    match arrangeAll fuel true line (some others) with
                    | some second => if second.all Line.fits then some second else some result
                    | none => some result

end

/-- The lines of a statement at a depth. -/
def linesOfPieces
    (depth : Nat)
    (isFunction isImport : Bool)
    (pieces : List Piece) : List Line :=
  arrange (6 * (pieces.length + 2)) false 
    ⟨depth, .whole, isFunction, isImport, false, pieces.flatMap Piece.withLeading⟩

end Tablewright.Layout
