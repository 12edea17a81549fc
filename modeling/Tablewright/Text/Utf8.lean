/-!
# Encoded texts

Bytes as characters and back. Decoding stops at the first sequence that no well-formed text holds
and names the bytes that are at fault: those that begin a character and cannot go on.
-/

namespace Tablewright.Text

/-- What is wrong with a sequence of bytes. -/
inductive Malformation where
  | startByte
  | continuationByte
  | unexpectedEnd
  deriving Repr, DecidableEq

/-- The first place at which bytes do not encode a text. -/
structure DecodeError where
  /-- The byte found at `position`. -/
  byte : UInt8
  position : Nat
  /-- The number of bytes at fault. -/
  length : Nat
  malformation : Malformation
  deriving Repr, DecidableEq

/-- The reason, in words. -/
def Malformation.reason : Malformation → String
  | .startByte => "invalid start byte"
  | .continuationByte => "invalid continuation byte"
  | .unexpectedEnd => "unexpected end of data"

/-- A byte as two hexadecimal digits. -/
def hexByte
    (byte : UInt8) : String :=
  let digits := Nat.toDigits 16 byte.toNat
  String.ofList (if digits.length < 2 then '0' :: digits else digits)

/-- The report of bytes that do not encode a text. -/
def DecodeError.message
    (error : DecodeError) : String :=
  if error.length = 1 then
    "'utf-8' codec can't decode byte 0x" ++ hexByte error.byte ++ " in position " ++
      toString error.position ++ ": " ++ error.malformation.reason
  else
    "'utf-8' codec can't decode bytes in position " ++ toString error.position ++ "-" ++
      toString (error.position + error.length - 1) ++ ": " ++ error.malformation.reason

/-- What the first byte of a character announces: the number of bytes that follow it, its part of
the code point, and the least and greatest byte that may come next. -/
structure Lead where
  following : Nat
  high : Nat
  least : Nat
  greatest : Nat
  deriving Repr, DecidableEq

/-- The announcement of a first byte, if a character may begin with it. -/
def Lead.ofByte?
    (byte : Nat) : Option Lead :=
  if byte < 0x80 then some ⟨0, byte, 0, 0⟩
  else if byte < 0xC2 then none
  else if byte < 0xE0 then some ⟨1, byte - 0xC0, 0x80, 0xBF⟩
  else if byte = 0xE0 then some ⟨2, 0, 0xA0, 0xBF⟩
  else if byte = 0xED then some ⟨2, 0xD, 0x80, 0x9F⟩
  else if byte < 0xF0 then some ⟨2, byte - 0xE0, 0x80, 0xBF⟩
  else if byte = 0xF0 then some ⟨3, 0, 0x90, 0xBF⟩
  else if byte < 0xF4 then some ⟨3, byte - 0xF0, 0x80, 0xBF⟩
  else if byte = 0xF4 then some ⟨3, 4, 0x80, 0x8F⟩
  else none

/-- A character that has begun and is not complete: its first byte and where it stands, the number
of bytes seen, the number still owed, the code point so far, and the bounds of the next byte. -/
structure Partial where
  lead : UInt8
  position : Nat
  seen : Nat
  owed : Nat
  code : Nat
  least : Nat
  greatest : Nat
  deriving Repr, DecidableEq

/-- Decodes bytes from `position` on, inside a character or between two. -/
def decodeFrom
    (position : Nat)
    (pending : Option Partial) : List UInt8 → Except DecodeError (List Char)
  | [] =>
      match pending with
      | none => .ok []
      | some character =>
          .error ⟨character.lead, character.position, character.seen, .unexpectedEnd⟩
  | byte :: rest =>
      match pending with
      | none =>
          match Lead.ofByte? byte.toNat with
          | none => .error ⟨byte, position, 1, .startByte⟩
          | some ⟨0, high, _, _⟩ =>
              (decodeFrom (position + 1) none rest).map (Char.ofNat high :: ·)
          | some ⟨owed + 1, high, least, greatest⟩ =>
              decodeFrom (position + 1)
                (some ⟨byte, position, 1, owed + 1, high, least, greatest⟩) rest
      | some character =>
          if character.least ≤ byte.toNat ∧ byte.toNat ≤ character.greatest then
            let code := character.code * 64 + (byte.toNat - 0x80)
            if character.owed ≤ 1 then
              (decodeFrom (position + 1) none rest).map (Char.ofNat code :: ·)
            else
              decodeFrom (position + 1)
                (some ⟨character.lead, character.position, character.seen + 1,
                  character.owed - 1, code, 0x80, 0xBF⟩) rest
          else
            .error ⟨character.lead, character.position, character.seen, .continuationByte⟩

/-- The text that the bytes encode. -/
def decode
    (bytes : List UInt8) : Except DecodeError String :=
  (decodeFrom 0 none bytes).map String.ofList

/-- What stands for a byte that is part of no character: a control character that has no meaning. -/
def strayByte : Char := '\x01'

/-- The first character that bytes encode, if they begin with one, and the bytes after it. -/
def firstChar?
    (bytes : List UInt8) : Option (Char × List UInt8) :=
  [1, 2, 3, 4].findSome? fun length =>
    match decodeFrom 0 none (bytes.take length) with
    | .ok [c] => some (c, bytes.drop length)
    | _ => none

/-- The characters of at most `count` bytes, of which some may be part of no character. -/
def looseChars : Nat → List UInt8 → List Char
  | 0, _ => []
  | _, [] => []
  | count + 1, byte :: rest =>
      match firstChar? (byte :: rest) with
      | some (c, after) => c :: looseChars count after
      | none => strayByte :: looseChars count rest

/-- The text of bytes of which some may be part of no character. -/
def decodeLoosely
    (bytes : List UInt8) : String :=
  String.ofList (looseChars bytes.length bytes)

/-- The bytes that encode the text. -/
def encode
    (text : String) : List UInt8 :=
  text.toUTF8.toList

end Tablewright.Text
