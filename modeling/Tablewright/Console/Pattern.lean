import Tablewright.Value.Arithmetic

/-!
# Patterns with fields

A pattern is a text in which a percent sign begins a field. A field takes a value, either the next
one or the one under a name, and writes it in a given way and width. Two percent signs stand for
one.
-/

namespace Tablewright.Console

/-- What a pattern is filled from. -/
structure Operands where
  /-- Values for fields without names, in order. -/
  ordered : List Value
  /-- Values for fields with names, if there are any such values. -/
  named? : Option (List (Value × Value))
  deriving Repr

/-- A width or precision. -/
inductive Measure where
  | none
  | fixed (n : Nat)
  /-- The next value says it. -/
  | given
  deriving Repr, DecidableEq

/-- A field of a pattern. -/
structure Field where
  name? : Option String
  flags : List Char
  width : Measure
  precision : Measure
  conversion : Char
  /-- The position of the conversion in the pattern. -/
  position : Nat
  deriving Repr, DecidableEq

/-- A part of a pattern. -/
inductive Piece where
  | plain (c : Char)
  | field (field : Field)
  /-- A field that the pattern ends within. -/
  | incomplete
  /-- A field whose name is not closed. -/
  | openName
  deriving Repr, DecidableEq

/-- Why a pattern cannot be filled. -/
inductive PatternError where
  | tooFewValues
  | tooManyValues
  | namesWithoutMapping
  | missingName (name : String)
  | badConversion (conversion : Char) (position : Nat)
  | notReal (conversion : Char) (kind : String)
  | notWhole (conversion : Char) (kind : String)
  | notFloat (kind : String)
  | notCharacter
  | badMeasure
  | incomplete
  | openName
  deriving Repr, DecidableEq

/-- The wording of an error. -/
def PatternError.message : PatternError → String
  | .tooFewValues => "not enough arguments for format string"
  | .tooManyValues => "not all arguments converted during string formatting"
  | .namesWithoutMapping => "format requires a mapping"
  | .missingName name => Text.quoted name
  | .badConversion conversion position =>
      "unsupported format character '" ++ String.singleton conversion ++ "' (0x" ++
        String.ofList (Nat.toDigits 16 conversion.toNat) ++ ") at index " ++ toString position
  | .notReal conversion kind =>
      "%" ++ String.singleton conversion ++ " format: a real number is required, not " ++ kind
  | .notWhole conversion kind =>
      "%" ++ String.singleton conversion ++ " format: an integer is required, not " ++ kind
  | .notFloat kind => "must be real number, not " ++ kind
  | .notCharacter => "%c requires int or char"
  | .badMeasure => "* wants int"
  | .incomplete => "incomplete format"
  | .openName => "incomplete format key"

namespace Pattern

/-- Whether the character is a flag of a field. -/
def isFlag
    (c : Char) : Bool :=
  ['-', '+', ' ', '#', '0'].contains c

/-- The name of a field, of which `depth` brackets are open, and what follows its closing
bracket. -/
def nameFrom : Nat → List Char → List Char → Option (List Char × List Char)
  | _, _, [] => none
  | depth, name, '(' :: rest => nameFrom (depth + 1) ('(' :: name) rest
  | 0, name, ')' :: rest => some (name.reverse, rest)
  | depth + 1, name, ')' :: rest => nameFrom depth (')' :: name) rest
  | depth, name, c :: rest => nameFrom depth (c :: name) rest

/-- A width or precision at the beginning of a text, and what follows it. -/
def measureFrom : List Char → Measure × List Char
  | '*' :: rest => (.given, rest)
  | text =>
      match text.takeWhile Char.isDigit with
      | [] => (.none, text)
      | digits => (.fixed ((String.ofList digits).toNat?.getD 0), text.dropWhile Char.isDigit)

/-- A precision at the beginning of a text; a point without digits says zero. -/
def precisionFrom : List Char → Measure × List Char
  | '.' :: rest =>
      match measureFrom rest with
      | (.none, after) => (.fixed 0, after)
      | found => found
  | text => (.none, text)

/-- The field after a percent sign and its name, and what follows it. -/
def fieldFrom
    (length : Nat)
    (name? : Option String)
    (text : List Char) : Piece × List Char :=
  let afterFlags := text.dropWhile isFlag
  let (width, afterWidth) := measureFrom afterFlags
  let (precision, afterPrecision) := precisionFrom afterWidth
  let afterSize :=
    match afterPrecision with
    | c :: rest => if c = 'h' || c = 'l' || c = 'L' then rest else c :: rest
    | [] => []
  match afterSize with
  | [] => (.incomplete, [])
  | conversion :: rest =>
      (.field ⟨name?, text.takeWhile isFlag, width, precision, conversion,
        length - rest.length - 1⟩, rest)

/-- The part after a percent sign, and what follows it. -/
def pieceFrom
    (length : Nat) : List Char → Piece × List Char
  | '(' :: rest =>
      match nameFrom 0 [] rest with
      | none => (.openName, [])
      | some (name, after) => fieldFrom length (some (String.ofList name)) after
  | text => fieldFrom length none text

/-- The parts of a text, at most `fuel` of them. -/
def piecesFrom
    (length : Nat) : Nat → List Char → List Piece
  | 0, _ => []
  | _, [] => []
  | fuel + 1, '%' :: rest =>
      let (piece, after) := pieceFrom length rest
      piece :: piecesFrom length fuel after
  | fuel + 1, c :: rest => .plain c :: piecesFrom length fuel rest

/-- The parts of a pattern. -/
def pieces
    (pattern : String) : List Piece :=
  let text := pattern.toList
  piecesFrom text.length text.length text

/-- Text with a sign at its beginning, filled up to a width. -/
def pad
    (flags : List Char)
    (width : Nat)
    (numeric : Bool)
    (sign body : List Char) : List Char :=
  let fill := width - sign.length - body.length
  if flags.contains '-' then sign ++ body ++ List.replicate fill ' '
  else if flags.contains '0' && numeric then sign ++ List.replicate fill '0' ++ body
  else List.replicate fill ' ' ++ sign ++ body

/-- The sign of a number. -/
def signOf
    (flags : List Char)
    (negative : Bool) : List Char :=
  if negative then ['-']
  else if flags.contains '+' then ['+']
  else if flags.contains ' ' then [' ']
  else []

/-- The whole number that a value is cut down to. -/
def truncated? : Value → Option Int
  | .bool b => some (if b then 1 else 0)
  | .int n => some n
  | .float x =>
      match Decimal.Binary.ofFloat x with
      | .finite negative mantissa exponent _ =>
          let size :=
            if 0 ≤ exponent then mantissa * Nat.pow 2 exponent.toNat
            else mantissa / Nat.pow 2 (-exponent).toNat
          some (if negative then -(size : Int) else size)
      | _ => none
  | _ => none

/-- The digits of a size with a least count. -/
def digitsOf
    (base least size : Nat) : List Char :=
  let digits := Nat.toDigits base size
  List.replicate (least - digits.length) '0' ++ digits

/-- The number of decimal places that stand behind the point, as text. -/
def fixedPlaces
    (places : Nat)
    (x : Float) : Bool × List Char :=
  match Decimal.Binary.ofFloat x with
  | .finite negative mantissa exponent _ =>
      let scaled :=
        if 0 ≤ exponent then mantissa * Nat.pow 2 exponent.toNat * Nat.pow 10 places
        else Decimal.roundDivEven (mantissa * Nat.pow 10 places) (Nat.pow 2 (-exponent).toNat)
      let digits := digitsOf 10 (places + 1) scaled
      let whole := digits.take (digits.length - places)
      let rest := digits.drop (digits.length - places)
      (negative, if places = 0 then whole else whole ++ '.' :: rest)
  | .infinite negative => (negative, "inf".toList)
  | .notANumber => (false, "nan".toList)

/-- A value as plain text with other characters than those of ASCII escaped. -/
def quoteAscii
    (value : Value) : String :=
  String.ofList <| value.quote.toList.flatMap fun c =>
    if c.toNat < 128 then [c] else Text.escapeCode c.toNat

/-- A whole number in a base. -/
def wholeText
    (flags : List Char)
    (width least base : Nat)
    (mark : List Char)
    (upper : Bool)
    (n : Int) : List Char :=
  let digits := digitsOf base least n.natAbs
  let body := if upper then digits.map Char.toUpper else digits
  let sign := signOf flags (decide (n < 0)) ++ (if flags.contains '#' then mark else [])
  pad flags width true sign body

def valueText
    (field : Field)
    (width : Nat)
    (precision? : Option Nat)
    (value : Value) : Except PatternError (List Char) :=
  let cut (text : String) : List Char :=
    let chars := text.toList
    pad field.flags width false [] ((precision?.map (chars.take ·)).getD chars)
  let least := precision?.getD 1
  match field.conversion with
  | 's' => .ok (cut value.display)
  | 'r' => .ok (cut value.quote)
  | 'a' => .ok (cut (quoteAscii value))
  | 'c' =>
      match value with
      | .text s =>
          if s.length = 1 then .ok (pad field.flags width false [] s.toList)
          else .error .notCharacter
      | .int n => .ok (pad field.flags width false [] [Char.ofNat n.toNat])
      | _ => .error .notCharacter
  | 'd' | 'i' | 'u' =>
      match truncated? value with
      | some n => .ok (wholeText field.flags width least 10 [] false n)
      | none => .error (.notReal field.conversion value.kindName)
  | 'x' =>
      match value.count? with
      | some n => .ok (wholeText field.flags width least 16 ['0', 'x'] false n)
      | none => .error (.notWhole 'x' value.kindName)
  | 'X' =>
      match value.count? with
      | some n => .ok (wholeText field.flags width least 16 ['0', 'X'] true n)
      | none => .error (.notWhole 'X' value.kindName)
  | 'o' =>
      match value.count? with
      | some n => .ok (wholeText field.flags width least 8 ['0', 'o'] false n)
      | none => .error (.notWhole 'o' value.kindName)
  | 'f' | 'F' =>
      match value.number?.map Value.Number.toFloat with
      | some (.ok x) =>
          let (negative, body) := fixedPlaces (precision?.getD 6) x
          .ok (pad field.flags width true (signOf field.flags negative) body)
      | _ => .error (.notFloat value.kindName)
  | conversion => .error (.badConversion conversion field.position)

/-- The value of a measure, and the values that are left. -/
def measure
    (spec : Measure)
    (ordered : List Value) : Except PatternError (Option Int × List Value) :=
  match spec with
  | .none => .ok (none, ordered)
  | .fixed n => .ok (some n, ordered)
  | .given =>
      match ordered with
      | [] => .error .tooFewValues
      | .int n :: rest => .ok (some n, rest)
      | _ :: _ => .error .badMeasure

/-- The text of a field, and the values that are left. -/
def fieldText
    (named? : Option (List (Value × Value)))
    (field : Field)
    (ordered : List Value) : Except PatternError (List Char × List Value) := do
  let named ←
    match field.name? with
    | none => pure none
    | some name =>
        match named? with
        | none => throw .namesWithoutMapping
        | some entries =>
            match Value.field? name entries with
            | none => throw (.missingName name)
            | some value => pure (some value)
  let (width?, ordered) ← measure field.width ordered
  let (precision?, ordered) ← measure field.precision ordered
  let width := width?.getD 0
  let field := if width < 0 then { field with flags := '-' :: field.flags } else field
  if field.conversion = '%' then
    return (['%'], ordered)
  match named, ordered with
  | some value, _ =>
      return (← valueText field width.natAbs (precision?.map Int.toNat) value, ordered)
  | none, value :: rest =>
      return (← valueText field width.natAbs (precision?.map Int.toNat) value, rest)
  | none, [] => throw .tooFewValues

/-- The text of parts, and the values that are left. -/
def fillFrom
    (named? : Option (List (Value × Value))) :
    List Piece → List Value → Except PatternError (List Char × List Value)
  | [], ordered => .ok ([], ordered)
  | .plain c :: rest, ordered => do
      let (text, left) ← fillFrom named? rest ordered
      return (c :: text, left)
  | .incomplete :: _, _ => .error .incomplete
  | .openName :: _, _ => .error .openName
  | .field field :: rest, ordered => do
      let (before, ordered) ← fieldText named? field ordered
      let (text, left) ← fillFrom named? rest ordered
      return (before ++ text, left)

/-- A pattern with its fields filled. All values without names have to be used. -/
def fill
    (pattern : String)
    (operands : Operands) : Except PatternError String := do
  let (text, left) ← fillFrom operands.named? (pieces pattern) operands.ordered
  if operands.named?.isNone && !left.isEmpty then
    throw .tooManyValues
  return String.ofList text

/-- Whether a field with a name begins here and is one that record layouts may have. -/
def isLayoutField : List Char → Bool
  | '%' :: '(' :: rest =>
      match nameFrom 0 [] rest with
      | none => false
      | some (name, after) =>
          let (_, afterWidth) := measureFrom (after.dropWhile isFlag)
          let afterPoint? :=
            match afterWidth with
            | '.' :: more =>
                match measureFrom more with
                | (.none, _) => none
                | (_, rest) => some rest
            | _ => some afterWidth
          let isWord := !name.isEmpty && name.all fun c => c.isAlphanum || c = '_'
          match afterPoint? with
          | some (conversion :: _) =>
              isWord && "diouxefgcrsa%".toList.contains conversion.toLower
          | _ => false
  | _ => false

/-- Whether a text holds a field with a name. -/
def hasLayoutField : List Char → Bool
  | [] => false
  | c :: rest => isLayoutField (c :: rest) || hasLayoutField rest

end Pattern

end Tablewright.Console
