import Tablewright.Decimal.Shortest

/-!
# Floating-point numbers as text

The shortest decimal of a number, written in places while its exponent is moderate and with an
exponent of at least two digits elsewhere.
-/

namespace Tablewright.Decimal

/-- How a number is laid out. -/
structure Layout where
  /-- The least power of ten of a first digit that is written in places. -/
  leastPlaced : Int
  /-- The power of ten of a first digit from which on an exponent is written. -/
  leastScaled : Int
  /-- The least number of digits of an exponent. -/
  exponentDigits : Nat
  infinite : String
  notANumber : String
  deriving Repr, DecidableEq

/-- Numbers are written in places from `0.0001` up to sixteen digits before the point. -/
def standardLayout : Layout where
  leastPlaced := -4
  leastScaled := 16
  exponentDigits := 2
  infinite := "inf"
  notANumber := "nan"

/-- Digits without the zeros at the end, and the number of zeros taken off, in `steps` steps. -/
def trimZeros : Nat → Nat → Nat × Nat
  | 0, digits => (digits, 0)
  | steps + 1, digits =>
      if digits % 10 = 0 ∧ digits ≠ 0 then
        let (kept, zeros) := trimZeros steps (digits / 10)
        (kept, zeros + 1)
      else
        (digits, 0)

/-- A positive decimal in places: with a point, and a digit on either side of it. -/
def Fraction.placed
    (fraction : Fraction) : String :=
  let digits := toString fraction.digits
  if 0 ≤ fraction.exponent then
    digits ++ String.ofList (List.replicate fraction.exponent.toNat '0') ++ ".0"
  else
    let places := (-fraction.exponent).toNat
    let padded := List.replicate (places + 1 - digits.length) '0' ++ digits.toList
    let whole := padded.take (padded.length - places)
    let part := padded.drop (padded.length - places)
    String.ofList (whole ++ '.' :: part)

/-- A positive decimal with one digit before the point and an exponent. -/
def Fraction.scaled
    (layout : Layout)
    (fraction : Fraction)
    (power : Int) : String :=
  let exponent := toString power.natAbs
  let padding := List.replicate (layout.exponentDigits - exponent.length) '0'
  let mantissa :=
    match (toString fraction.digits).toList with
    | [] => []
    | [digit] => [digit]
    | digit :: rest => digit :: '.' :: rest
  String.ofList mantissa ++ "e" ++ (if power < 0 then "-" else "+") ++
    String.ofList padding ++ exponent

/-- The text of a positive decimal. -/
def Fraction.render
    (layout : Layout)
    (fraction : Fraction) : String :=
  let (digits, zeros) := trimZeros 400 fraction.digits
  let trimmed : Fraction := ⟨digits, fraction.exponent + zeros⟩
  let power : Int := ((toString digits).length : Int) - 1 + trimmed.exponent
  if layout.leastPlaced ≤ power ∧ power < layout.leastScaled then trimmed.placed
  else trimmed.scaled layout power

/-- The text of a floating-point number. -/
def render
    (layout : Layout)
    (x : Float) : String :=
  match Binary.ofFloat x with
  | .notANumber => layout.notANumber
  | .infinite negative => (if negative then "-" else "") ++ layout.infinite
  | .finite negative mantissa exponent narrow =>
      let sign := if negative then "-" else ""
      if mantissa = 0 then sign ++ "0.0"
      else sign ++ (shortest mantissa exponent narrow).render layout

/-- The text of a floating-point number in the standard layout. -/
def text
    (x : Float) : String :=
  render standardLayout x

end Tablewright.Decimal
