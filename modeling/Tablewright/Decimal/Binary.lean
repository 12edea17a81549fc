/-!
# Binary fractions

A finite floating-point number is a whole number times a power of two. A decimal fraction becomes
the nearest such number, of two equally near ones the even one.
-/

namespace Tablewright.Decimal

/-- The parts of a floating-point number. -/
inductive Binary where
  /-- `mantissa * 2 ^ exponent`, below zero if `negative`; `narrow` says that the gap to the next
  smaller number is half of that to the next greater one. -/
  | finite (negative : Bool) (mantissa : Nat) (exponent : Int) (narrow : Bool)
  | infinite (negative : Bool)
  | notANumber
  deriving Repr, DecidableEq

/-- The parts of a number, from its bits. -/
def Binary.ofFloat
    (x : Float) : Binary :=
  let bits : Nat := x.toBits.toNat
  let negative := decide (bits / Nat.pow 2 63 = 1)
  let biased : Nat := bits / Nat.pow 2 52 % 2048
  let fraction : Nat := bits % Nat.pow 2 52
  if biased = 2047 then
    if fraction = 0 then .infinite negative else .notANumber
  else if biased = 0 then
    .finite negative fraction (-1074) false
  else
    .finite negative (Nat.pow 2 52 + fraction) ((biased : Int) - 1075) (fraction = 0 && 1 < biased)

/-- `numerator / denominator` to the nearest whole number, a half to the even neighbour. -/
def roundDivEven
    (numerator denominator : Nat) : Nat :=
  let quotient := numerator / denominator
  let twice := 2 * (numerator % denominator)
  if twice < denominator then quotient
  else if denominator < twice then quotient + 1
  else if quotient % 2 = 0 then quotient
  else quotient + 1

/-- The bits of the non-negative number nearest to `numerator / denominator`. -/
def nearestBits
    (numerator denominator : Nat) : Nat :=
  if numerator = 0 then 0
  else
    -- `2 ^ scale` is at most the quotient, up to one binary place
    let scale : Int := (Nat.log2 numerator : Int) - (Nat.log2 denominator : Int)
    let exact (exponent : Int) : Nat × Nat :=
      if 0 ≤ exponent then (numerator, denominator * Nat.pow 2 exponent.toNat)
      else (numerator * Nat.pow 2 (-exponent).toNat, denominator)
    let floorScale : Int :=
      let (top, bottom) := exact scale
      if bottom ≤ top then scale else scale - 1
    let exponent : Int := max (floorScale - 52) (-1074)
    let (top, bottom) := exact exponent
    let mantissa := roundDivEven top bottom
    -- a mantissa that rounds up to `2 ^ 53` carries into the exponent field by itself
    let bits := (exponent + 1074).toNat * Nat.pow 2 52 + mantissa
    if 2047 * Nat.pow 2 52 ≤ bits then 2047 * Nat.pow 2 52 else bits

/-- The number nearest to `digits * 10 ^ exponent`; beyond the greatest number it is infinite. -/
def nearest
    (negative : Bool)
    (digits : Nat)
    (exponent : Int) : Float :=
  let size := (Nat.toDigits 10 digits).length
  let bits :=
    if digits = 0 ∨ (size : Int) + exponent < -400 then 0
    else if 400 < (size : Int) + exponent then 2047 * Nat.pow 2 52
    else if 0 ≤ exponent then nearestBits (digits * Nat.pow 10 exponent.toNat) 1
    else nearestBits digits (Nat.pow 10 (-exponent).toNat)
  Float.ofBits (UInt64.ofNat (if negative then Nat.pow 2 63 + bits else bits))

/-- The number nearest to a whole number. -/
def ofInt
    (n : Int) : Float :=
  nearest (n < 0) n.natAbs 0

end Tablewright.Decimal
