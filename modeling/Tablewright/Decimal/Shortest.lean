import Tablewright.Decimal.Binary

/-!
# Shortest decimal fractions

The fewest decimal digits that read back as a given floating-point number, and of those the digits
nearest to it. For one, two, and more digits the two neighbours of the number on the decimal grid
are tried, in whole-number arithmetic.
-/

namespace Tablewright.Decimal

/-- A positive decimal fraction `digits * 10 ^ exponent`. -/
structure Fraction where
  digits : Nat
  exponent : Int
  deriving Repr, DecidableEq

/-- Bounds for the decimals that read back as a number: the number and half of each gap beside it,
all over one denominator; the ends belong to it if `closed`. -/
structure Interval where
  value : Nat
  below : Nat
  above : Nat
  denominator : Nat
  closed : Bool
  deriving Repr, DecidableEq

/-- The interval of a mantissa and an exponent of two. -/
def Interval.ofBinary
    (mantissa : Nat)
    (exponent : Int)
    (narrow : Bool) : Interval :=
  let unit := Nat.pow 2 exponent.toNat
  { value := 4 * mantissa * unit
    below := (if narrow then 1 else 2) * unit
    above := 2 * unit
    denominator := 4 * Nat.pow 2 (-exponent).toNat
    closed := mantissa % 2 = 0 }

/-- Whether `digits * 10 ^ exponent` reads back as the number. -/
def Interval.contains
    (interval : Interval)
    (fraction : Fraction) : Bool :=
  let point := fraction.digits * Nat.pow 10 fraction.exponent.toNat * interval.denominator
  let scale := Nat.pow 10 (-fraction.exponent).toNat
  let low := (interval.value - interval.below) * scale
  let high := (interval.value + interval.above) * scale
  if interval.closed then decide (low ≤ point) && decide (point ≤ high)
  else decide (low < point) && decide (point < high)

/-- The greatest grid point `digits * 10 ^ exponent` that is not above the number. -/
def Interval.floorOn
    (interval : Interval)
    (exponent : Int) : Fraction :=
  { digits := interval.value * Nat.pow 10 (-exponent).toNat /
      (interval.denominator * Nat.pow 10 exponent.toNat)
    exponent := exponent }

/-- The distance of a grid point from the number, up to a factor that the grid fixes. -/
def Interval.distance
    (interval : Interval)
    (fraction : Fraction) : Nat :=
  let point := fraction.digits * Nat.pow 10 fraction.exponent.toNat * interval.denominator
  let value := interval.value * Nat.pow 10 (-fraction.exponent).toNat
  (point - value) + (value - point)

/-- The better of the two neighbours on a grid that reads back as the number, if one does. -/
def Interval.onGrid?
    (interval : Interval)
    (exponent : Int) : Option Fraction :=
  let floor := interval.floorOn exponent
  let ceiling : Fraction := { floor with digits := floor.digits + 1 }
  match interval.contains floor, interval.contains ceiling with
  | true, true =>
      let down := interval.distance floor
      let up := interval.distance ceiling
      some (if down < up ∨ (down = up ∧ floor.digits % 2 = 0) then floor else ceiling)
  | true, false => some floor
  | false, true => some ceiling
  | false, false => none

/-- The least power of ten above the number, searched upward from `exponent`. -/
def Interval.magnitudeFrom
    (interval : Interval)
    (exponent : Int) : Nat → Int
  | 0 => exponent
  | steps + 1 =>
      if (interval.floorOn exponent).digits = 0 then exponent
      else interval.magnitudeFrom (exponent + 1) steps

/-- The first of the given numbers of digits with a decimal that reads back. -/
def Interval.shortest
    (interval : Interval) : Fraction :=
  let magnitude := interval.magnitudeFrom (-330) 700
  let grids := (List.range 17).map fun (n : Nat) => magnitude - ((n : Int) + 1)
  match grids.findSome? interval.onGrid? with
  | some fraction => fraction
  | none => interval.floorOn (magnitude - 17)

/-- The shortest decimal of the positive number `mantissa * 2 ^ exponent`. -/
def shortest
    (mantissa : Nat)
    (exponent : Int)
    (narrow : Bool) : Fraction :=
  (Interval.ofBinary mantissa exponent narrow).shortest

end Tablewright.Decimal
