import Tablewright.Decimal.Numeral
import Tablewright.Document.Fault
import Tablewright.Text.Blank
import Tablewright.Text.Case
import Tablewright.Value.Basic

/-!
# Numbers in documents

Whole numbers in four bases and numbers with a point, with low lines between their digits. Colons
separate digits to the base sixty.
-/

namespace Tablewright.Document

/-- Whether the character is a digit or a low line. -/
def isSpacedDigit
    (c : Char) : Bool :=
  c.isDigit || c = '_'

/-- The text without the sign at its beginning. -/
def withoutSign : List Char → List Char
  | '-' :: rest => rest
  | '+' :: rest => rest
  | text => text

/-- Goes past groups of a colon and a number below sixty, as far as there are any. -/
def afterSixties : List Char → List Char
  | ':' :: c :: d :: rest =>
      if '0' ≤ c && c ≤ '5' && d.isDigit then afterSixties rest
      else if c.isDigit then afterSixties (d :: rest)
      else ':' :: c :: d :: rest
  | [':', c] => if c.isDigit then [] else [':', c]
  | text => text

/-- Whether a text consists of characters of a class, of which there is one at least. -/
def consistsOf
    (belongs : Char → Bool)
    (text : List Char) : Bool :=
  !text.isEmpty && text.all belongs

/-- Whether a text begins with one of the digits other than zero. -/
def startsPositive
    (text : List Char) : Bool :=
  text.head?.any fun c => c.isDigit && c ≠ '0'

/-- Whether a text has the form of a whole number. -/
def looksLikeInteger
    (text : List Char) : Bool :=
  match withoutSign text with
  | ['0'] => true
  | '0' :: 'b' :: digits => consistsOf (fun c => c = '0' || c = '1' || c = '_') digits
  | '0' :: 'x' :: digits =>
      consistsOf (fun c => c.isDigit || ('a' ≤ c && c ≤ 'f') || ('A' ≤ c && c ≤ 'F') || c = '_')
        digits
  | '0' :: digits => consistsOf (fun c => ('0' ≤ c && c ≤ '7') || c = '_') digits
  | body => startsPositive body && (afterSixties (body.dropWhile isSpacedDigit)).isEmpty

/-- Whether a text is an exponent with a sign, or nothing. -/
def looksLikeExponent : List Char → Bool
  | [] => true
  | mark :: sign :: digits =>
      (mark = 'e' || mark = 'E') && (sign = '-' || sign = '+') && consistsOf Char.isDigit digits
  | _ => false

/-- Whether a text has the form of a number with a point. -/
def looksLikeFloat
    (text : List Char) : Bool :=
  let body := withoutSign text
  let word := String.ofList body
  let isInfinity := word = ".inf" || word = ".Inf" || word = ".INF"
  let isNoNumber :=
    text = ".nan".toList || text = ".NaN".toList || text = ".NAN".toList
  let startsAtPoint :=
    match text with
    | '.' :: places =>
        places.head?.any Char.isDigit && looksLikeExponent (places.dropWhile isSpacedDigit)
    | _ => false
  let hasPoint :=
    body.head?.any Char.isDigit &&
      (match body.dropWhile isSpacedDigit with
        | '.' :: places => looksLikeExponent (places.dropWhile isSpacedDigit)
        | ':' :: sixties =>
            match afterSixties (':' :: sixties) with
            | '.' :: places => places.all isSpacedDigit
            | _ => false
        | _ => false)
  isInfinity || isNoNumber || startsAtPoint || hasPoint

/-! ## Values -/

/-- The number that a digit or letter stands for. -/
def digitValue
    (c : Char) : Nat :=
  if c.isDigit then c.toNat - 48
  else if 'a' ≤ c ∧ c ≤ 'z' then c.toNat - 87
  else if 'A' ≤ c ∧ c ≤ 'Z' then c.toNat - 55
  else 36

/-- The text without the letter of its base. -/
def withoutBase
    (base : Nat) : List Char → List Char
  | '0' :: letter :: rest =>
      if (base = 2 && letter.toLower = 'b') || (base = 8 && letter.toLower = 'o') ||
          (base = 16 && letter.toLower = 'x') then rest
      else '0' :: letter :: rest
  | text => text

/-- The whole number that a text stands for in a base. -/
def integerInBase
    (base : Nat)
    (text : List Char) : Except ScalarFault Int :=
  let (negative, body) := Decimal.signAtStart (Text.stripChars text)
  let digits := withoutBase base body
  if digits.isEmpty || digits.any fun c => base ≤ digitValue c then
    .error (.integer base (String.ofList text))
  else if base = 10 && 4300 < digits.length then .error (.longInteger digits.length)
  else
    let magnitude := digits.foldl (fun n c => base * n + digitValue c) 0
    .ok (if negative then -(magnitude : Int) else magnitude)

/-- The parts of a text between colons. -/
def splitAtColons : List Char → List Char × List (List Char)
  | [] => ([], [])
  | c :: rest =>
      let (first, others) := splitAtColons rest
      if c = ':' then ([], first :: others) else (c :: first, others)

/-- The parts of a text between colons, in order. -/
def sixtiesOf
    (text : List Char) : List (List Char) :=
  let (first, others) := splitAtColons text
  first :: others

/-- The number of digits to the base sixty, the most significant first. -/
def integerOfSixties
    (digits : List Int) : Int :=
  digits.foldl (fun n digit => 60 * n + digit) 0

/-- The whole number that a text without a sign stands for. -/
def magnitudeOf
    (text : List Char) : Except ScalarFault Int :=
  match text with
  | [] => .error .noCharacter
  | ['0'] => .ok 0
  | '0' :: 'b' :: digits => integerInBase 2 digits
  | '0' :: 'x' :: digits => integerInBase 16 digits
  | '0' :: _ => integerInBase 8 text
  | _ =>
      if text.contains ':' then (sixtiesOf text).mapM (integerInBase 10) |>.map integerOfSixties
      else integerInBase 10 text

/-- The value of a text that is called a whole number. -/
def integerOf
    (text : List Char) : Except ScalarFault Int :=
  match text.filter (· ≠ '_') with
  | [] => .error .noCharacter
  | '-' :: rest => (magnitudeOf rest).map (- ·)
  | '+' :: rest => magnitudeOf rest
  | body => magnitudeOf body

/-- The number with a point that a text stands for. -/
def floatOfText
    (text : List Char) : Except ScalarFault Float :=
  match Decimal.number? (Text.stripChars text) with
  | some x => .ok x
  | none => .error (.float (String.ofList text))

/-- The number of digits to the base sixty, the least significant first, of which the next one
counts by the unit. -/
def floatOfSixties
    (unit : Float) : List Float → Float → Float
  | [], sum => sum
  | digit :: rest, sum => floatOfSixties (unit * 60.0) rest (sum + digit * unit)

/-- The number with a point that a text without a sign stands for. -/
def floatMagnitudeOf
    (text : List Char) : Except ScalarFault Float :=
  if text = ".inf".toList then .ok (Decimal.infinity false)
  else if text = ".nan".toList then .ok Decimal.notANumber
  else if text.contains ':' then
    ((sixtiesOf text).mapM floatOfText).map fun digits => floatOfSixties 1.0 digits.reverse 0.0
  else floatOfText text

/-- The value of a text that is called a number with a point. -/
def floatOf
    (text : List Char) : Except ScalarFault Float :=
  match Text.lowerChars (text.filter (· ≠ '_')) with
  | [] => .error .noCharacter
  | '-' :: rest => (floatMagnitudeOf rest).map fun x => -1.0 * x
  | '+' :: rest => floatMagnitudeOf rest
  | body => floatMagnitudeOf body

end Tablewright.Document
