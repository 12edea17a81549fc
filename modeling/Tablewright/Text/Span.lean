/-!
# Ranges of code points

A character property is a list of closed ranges of code points. A case mapping is a list of
evenly stepped ranges that move by one distance, with a list of code points that expand.
-/

namespace Tablewright.Text

/-- The code points from `first` to `last`, both included. -/
structure Span where
  first : Nat
  last : Nat
  deriving Repr, DecidableEq

/-- Every `step`-th code point from `first` to `last` moves by `distance`. -/
structure Shift where
  first : Nat
  last : Nat
  step : Nat
  distance : Int
  deriving Repr, DecidableEq

/-- The code point `source` becomes the code points `image`. -/
structure Expansion where
  source : Nat
  image : List Nat
  deriving Repr, DecidableEq

/-- Whether the range holds the character. -/
def Span.contains
    (span : Span)
    (c : Char) : Bool :=
  decide (span.first ≤ c.toNat) && decide (c.toNat ≤ span.last)

/-- Whether one of the ranges holds the character. -/
def Span.anyContains
    (spans : List Span)
    (c : Char) : Bool :=
  spans.any (·.contains c)

/-- The character that the shift makes of `c`, if `c` is one of its own. -/
def Shift.image?
    (shift : Shift)
    (c : Char) : Option Char :=
  let code := c.toNat
  if shift.first ≤ code ∧ code ≤ shift.last ∧ (code - shift.first) % shift.step = 0 then
    some (Char.ofNat ((code : Int) + shift.distance).toNat)
  else
    none

/-- The characters that the expansion makes of `c`, if `c` is its source. -/
def Expansion.image?
    (expansion : Expansion)
    (c : Char) : Option (List Char) :=
  if expansion.source = c.toNat then
    some (expansion.image.map Char.ofNat)
  else
    none

/-- A case mapping of one character: expansions first, then shifts, else the character itself. -/
def mapCase
    (expansions : List Expansion)
    (shifts : List Shift)
    (c : Char) : List Char :=
  match expansions.findSome? (·.image? c) with
  | some image => image
  | none =>
      match shifts.findSome? (·.image? c) with
      | some image => [image]
      | none => [c]

end Tablewright.Text
