import Tablewright.Text.Quoted

/-!
# Bytes in documents

Bytes are written in groups of four characters that stand for three bytes each. Characters that are
no digits do not count. The end may be filled up with equals signs.
-/

namespace Tablewright.Document

/-- The number that a digit to the base 64 stands for. -/
def base64Value?
    (c : Char) : Option Nat :=
  if 'A' ≤ c ∧ c ≤ 'Z' then some (c.toNat - 65)
  else if 'a' ≤ c ∧ c ≤ 'z' then some (c.toNat - 71)
  else if '0' ≤ c ∧ c ≤ '9' then some (c.toNat + 4)
  else if c = '+' then some 62
  else if c = '/' then some 63
  else none

/-- Why a text does not stand for bytes. -/
inductive Base64Fault where
  | loneDigit (digits : Nat)
  | incorrectPadding
  deriving Repr, DecidableEq

/-- The wording of a fault. -/
def Base64Fault.reason : Base64Fault → String
  | .loneDigit digits =>
      "Invalid base64-encoded string: number of data characters (" ++ toString digits ++
        ") cannot be 1 more than a multiple of 4"
  | .incorrectPadding => "Incorrect padding"

/-- The bytes of a text, inside a group of four digits of which `position` have come and left `high`
over. `count` bytes came before, and `padding` equals signs since the last digit. -/
def bytesFrom
    (count position high padding : Nat) : List Char → Except Base64Fault (List UInt8)
  | [] =>
      if position = 0 then .ok []
      else if position = 1 then .error (.loneDigit (count / 3 * 4 + 1))
      else .error .incorrectPadding
  | c :: rest =>
      if c = '=' then
        if 2 ≤ position then
          if 4 ≤ position + padding + 1 then .ok []
          else bytesFrom count position high (padding + 1) rest
        else bytesFrom count position high padding rest
      else
        match base64Value? c with
        | none => bytesFrom count position high padding rest
        | some digit =>
            let byte (n : Nat) (others : Except Base64Fault (List UInt8)) :=
              others.map (UInt8.ofNat n :: ·)
            if position = 0 then bytesFrom count 1 digit 0 rest
            else if position = 1 then
              byte (high * 4 + digit / 16) (bytesFrom (count + 1) 2 (digit % 16) 0 rest)
            else if position = 2 then
              byte (high * 16 + digit / 4) (bytesFrom (count + 1) 3 (digit % 4) 0 rest)
            else byte (high * 64 + digit) (bytesFrom (count + 1) 0 0 0 rest)

/-- The bytes that a text stands for. -/
def bytesOf
    (text : List Char) : Except Base64Fault (List UInt8) :=
  bytesFrom 0 0 0 0 text

/-- The first characters of a text that are not of the basic set, if there are any: their position,
the first of them, and their number. -/
def beyondAscii?
    (position : Nat) : List Char → Option (Nat × Char × Nat)
  | [] => none
  | c :: rest =>
      if c.toNat < 128 then beyondAscii? (position + 1) rest
      else some (position, c, 1 + (rest.takeWhile fun d => 128 ≤ d.toNat).length)

/-- The report of characters that are not of the basic set. -/
def beyondAsciiReason
    (position : Nat)
    (c : Char)
    (count : Nat) : String :=
  let range :=
    if count = 1 then
      "character '" ++ String.ofList (Text.escapeCode c.toNat) ++ "' in position " ++
        toString position
    else
      "characters in position " ++ toString position ++ "-" ++ toString (position + count - 1)
  "'ascii' codec can't encode " ++ range ++ ": ordinal not in range(128)"

end Tablewright.Document
