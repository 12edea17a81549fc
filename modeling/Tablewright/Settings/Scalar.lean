import Tablewright.Decimal.Numeral
import Tablewright.Text.Blank
import Tablewright.Value.Text

/-!
# Lenient scalars

Options take values of other kinds than their own where the meaning is plain: bytes for texts, texts
and truth values for numbers, and the usual words and numbers for truth values.
-/

namespace Tablewright.Settings

/-- Why a value does not fit an option. -/
inductive ScalarFault where
  | notText
  | notUnicode
  | notNumber
  | unreadableNumber
  | notTruth
  | unclearTruth
  deriving Repr, DecidableEq

/-- The wording of a fault. -/
def ScalarFault.message : ScalarFault → String
  | .notText => "Input should be a valid string"
  | .notUnicode => "Input should be a valid string, unable to parse raw data as a unicode string"
  | .notNumber => "Input should be a valid number"
  | .unreadableNumber => "Input should be a valid number, unable to parse string as a number"
  | .notTruth => "Input should be a valid boolean"
  | .unclearTruth => "Input should be a valid boolean, unable to interpret input"

def textOf : Value → Except ScalarFault String
  | .text s => .ok s
  | .bytes content =>
      match Text.decode content with
      | .ok s => .ok s
      | .error _ => .error .notUnicode
  | _ => .error .notText

/-- Whether the character may surround a number. -/
def isNumberBlank
    (c : Char) : Bool :=
  Text.isBlank c && !(0x1C ≤ c.toNat && c.toNat ≤ 0x1F)

/-- The characters without blanks at either end. -/
def trimNumber
    (chars : List Char) : List Char :=
  ((chars.dropWhile isNumberBlank).reverse.dropWhile isNumberBlank).reverse

/-- Whether two low lines follow each other. -/
def hasDoubleLowLine : List Char → Bool
  | '_' :: '_' :: _ => true
  | _ :: rest => hasDoubleLowLine rest
  | [] => false

/-- The characters without low lines, if these stand singly between others. -/
def withoutLowLines?
    (chars : List Char) : Option (List Char) :=
  if chars.head? = some '_' || chars.getLast? = some '_' || hasDoubleLowLine chars ||
      !chars.contains '_' then none
  else some (chars.filter (· ≠ '_'))

/-- The number that a text stands for. -/
def numberOfText?
    (text : String) : Option Float :=
  let chars := text.toList
  match Decimal.number? (trimNumber chars) with
  | some x => some x
  | none => (withoutLowLines? chars).bind fun plain => Decimal.number? (trimNumber plain)

def numberOf : Value → Except ScalarFault Float
  | .float x => .ok x
  | .bool b => .ok (if b then 1.0 else 0.0)
  | .int n =>
      let x := Decimal.ofInt n
      if x.isInf then .error .notNumber else .ok x
  | .text s =>
      match numberOfText? s with
      | some x => .ok x
      | none => .error .unreadableNumber
  | .bytes content =>
      match Text.decode content with
      | .ok s =>
          match numberOfText? s with
          | some x => .ok x
          | none => .error .unreadableNumber
      | .error _ => .error .unreadableNumber
  | _ => .error .notNumber

/-- Words that mean no. -/
def noWords : List String := ["0", "off", "f", "false", "n", "no"]

/-- Words that mean yes. -/
def yesWords : List String := ["1", "on", "t", "true", "y", "yes"]

/-- The truth value that a text stands for. -/
def truthOfText
    (text : String) : Except ScalarFault Bool :=
  let word := String.ofList (text.toList.map Char.toLower)
  if noWords.contains word then .ok false
  else if yesWords.contains word then .ok true
  else .error .unclearTruth

/-- Whether a whole number fits into 64 bits. -/
def fitsWord
    (n : Int) : Bool :=
  decide (-0x8000000000000000 ≤ n) && decide (n < 0x8000000000000000)

def truthOf : Value → Except ScalarFault Bool
  | .bool b => .ok b
  | .int n =>
      if n = 0 then .ok false
      else if n = 1 then .ok true
      else .error (if fitsWord n then .unclearTruth else .notTruth)
  | .float x =>
      if x == 0.0 then .ok false
      else if x == 1.0 then .ok true
      else .error .notTruth
  | .text s => truthOfText s
  | .bytes content =>
      match Text.decode content with
      | .ok s => truthOfText s
      | .error _ => .error .unclearTruth
  | _ => .error .notTruth

end Tablewright.Settings
