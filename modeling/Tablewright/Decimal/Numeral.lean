import Tablewright.Decimal.Binary

/-!
# Reading decimal numerals

A numeral is a sign, digits with perhaps a point among or beside them, and perhaps an exponent. It
stands for the nearest floating-point number. Words stand for infinity and for what is no number.
-/

namespace Tablewright.Decimal

/-- The digits at the beginning of a text, and what follows them. -/
def digitsAtStart
    (text : List Char) : List Char × List Char :=
  (text.takeWhile Char.isDigit, text.dropWhile Char.isDigit)

/-- The number that digits stand for. -/
def natOfDigits
    (digits : List Char) : Nat :=
  digits.foldl (fun n c => 10 * n + (c.toNat - 48)) 0

/-- The sign at the beginning of a text, and what follows it. -/
def signAtStart : List Char → Bool × List Char
  | '-' :: rest => (true, rest)
  | '+' :: rest => (false, rest)
  | text => (false, text)

/-- The exponent that a text consists of, none at all being zero. -/
def exponentOf? : List Char → Option Int
  | [] => some 0
  | mark :: rest =>
      if mark = 'e' ∨ mark = 'E' then
        let (negative, body) := signAtStart rest
        let (digits, after) := digitsAtStart body
        if digits.isEmpty || !after.isEmpty then none
        else some (if negative then -(natOfDigits digits : Int) else natOfDigits digits)
      else none

/-- The number that an unsigned numeral stands for, with a sign. -/
def unsignedNumeral?
    (negative : Bool)
    (text : List Char) : Option Float :=
  let (whole, afterWhole) := digitsAtStart text
  let (places, afterPlaces) :=
    match afterWhole with
    | '.' :: rest => digitsAtStart rest
    | rest => ([], rest)
  if whole.isEmpty && places.isEmpty then none
  else
    (exponentOf? afterPlaces).map fun exponent =>
      nearest negative (natOfDigits (whole ++ places)) (exponent - places.length)

/-- The number that a numeral stands for. -/
def numeral?
    (text : List Char) : Option Float :=
  let (negative, body) := signAtStart text
  unsignedNumeral? negative body

/-- Infinity, above or below zero. -/
def infinity
    (negative : Bool) : Float :=
  Float.ofBits (UInt64.ofNat ((if negative then Nat.pow 2 63 else 0) + 2047 * Nat.pow 2 52))

def notANumber : Float :=
  Float.ofBits (UInt64.ofNat (2047 * Nat.pow 2 52 + Nat.pow 2 51))

/-- The number that a numeral or a word for infinity or for no number stands for. -/
def number?
    (text : List Char) : Option Float :=
  match numeral? text with
  | some x => some x
  | none =>
      let (negative, body) := signAtStart text
      let word := String.ofList (body.map Char.toLower)
      if word = "inf" || word = "infinity" then some (infinity negative)
      else if word = "nan" then some notANumber
      else none

end Tablewright.Decimal
