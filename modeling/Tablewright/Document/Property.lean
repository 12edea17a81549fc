import Tablewright.Document.Reading
import Tablewright.Document.Token
import Tablewright.Text.Utf8

/-!
# Properties and directives

Anchors, aliases, tags and directives. Addresses in tags may hold escaped bytes, which have to be
those of a text.
-/

namespace Tablewright.Document

open Reading

/-- Whether names of anchors, handles and directives may hold the character. -/
def isNameChar
    (c : Char) : Bool :=
  c.isAlphanum || c = '-' || c = '_'

/-- Whether an address may hold the character as it is. -/
def isAddressChar
    (c : Char) : Bool :=
  c.isAlphanum || "-;/?:@&=+$,_.!~*'()[]".toList.contains c

/-- The number that a hexadecimal digit stands for. -/
def hexValue?
    (c : Char) : Option Nat :=
  if '0' ≤ c ∧ c ≤ '9' then some (c.toNat - 48)
  else if 'a' ≤ c ∧ c ≤ 'f' then some (c.toNat - 87)
  else if 'A' ≤ c ∧ c ≤ 'F' then some (c.toNat - 55)
  else none

/-- Reads the number of a fixed count of hexadecimal digits. What comes instead of one is reported
at the place of the first. -/
def hexNumber
    (activity : Activity)
    (start : Mark)
    (wanted : Expected)
    (width : Nat) : Reading Nat := do
  let mut code := 0
  for k in List.range width do
    let next ← peek k
    match next.bind hexValue? with
    | some digit => code := 16 * code + digit
    | none => fail (some (activity, some start)) (.expected wanted next)
  skip width
  return code

/-- The name that follows the sign of an anchor or alias. -/
def anchorName
    (activity : Activity) : Reading String := do
  let start ← place
  skip 1
  let name ← takeWhile isNameChar
  if name.isEmpty then failExpecting activity start .alphanumeric
  let next ← peek 0
  if isGap next || next.any fun c => "?:,]\x7d%@`".toList.contains c then
    return String.ofList name
  else failExpecting activity start .alphanumeric

/-- Reads escaped bytes, as long as there are any. -/
def escapedBytes
    (activity : Activity)
    (start : Mark) : Nat → Reading (List UInt8)
  | 0 => return []
  | fuel + 1 => do
      if (← peek 0) = some '%' then
        skip 1
        let code ← hexNumber activity start .addressEscape 2
        return UInt8.ofNat code :: (← escapedBytes activity start fuel)
      else return []

/-- The characters of escaped bytes. -/
def escapedText
    (activity : Activity)
    (start : Mark) : Reading (List Char) := do
  let mark ← place
  let bytes ← escapedBytes activity start (← get).rest.length
  match Text.decode bytes with
  | .ok text => return text.toList
  | .error error =>
      throw (.located (some (activity, some start)) (.undecodableEscape error.message) mark)

/-- The characters of an address, as far as it goes. -/
def addressChars
    (activity : Activity)
    (start : Mark) : Nat → Reading (List Char)
  | 0 => return []
  | fuel + 1 => do
      let plain ← takeWhile isAddressChar
      if (← peek 0) = some '%' then
        let escaped ← escapedText activity start
        return plain ++ escaped ++ (← addressChars activity start fuel)
      else return plain

/-- An address, which cannot be empty. -/
def address
    (activity emptyActivity : Activity)
    (start : Mark) : Reading String := do
  let before ← place
  let chars ← addressChars activity start ((← get).rest.length + 1)
  if (← place) = before then failExpecting emptyActivity start .address
  return String.ofList chars

/-- A handle of tags: an exclamation mark, or a name between two. -/
def tagHandle
    (activity : Activity)
    (start : Mark) : Reading String := do
  if (← peek 0) ≠ some '!' then failExpecting activity start .exclamationMark
  if (← peek 1) = some ' ' then
    skip 1
    return "!"
  else
    let name := ((← get).rest.drop 1).takeWhile isNameChar
    if (← peek (name.length + 1)) ≠ some '!' then
      skip (name.length + 1)
      failExpecting activity start .exclamationMark
    skip (name.length + 2)
    return String.ofList ('!' :: name ++ ['!'])

/-- Whether a second exclamation mark follows in a tag, before it ends. -/
def hasHandle
    (afterFirst : List Char) : Bool :=
  match afterFirst.dropWhile fun c => c ≠ '!' && !(c = ' ' || isBreak c) with
  | '!' :: _ => true
  | _ => false

def tagText : Reading TagText := do
  let start ← place
  let next ← peek 1
  let text ←
    if next = some '<' then
      skip 2
      let suffix ← address .tag .tagAddress start
      if (← peek 0) ≠ some '>' then failExpecting .tagAddress start .closingAngle
      skip 1
      pure ⟨none, suffix⟩
    else if isGap next then
      skip 1
      pure ⟨none, "!"⟩
    else if hasHandle ((← get).rest.drop 1) then
      let handle ← tagHandle .tag start
      pure ⟨some handle, ← address .tag .tagAddress start⟩
    else
      skip 1
      pure ⟨some "!", ← address .tag .tagAddress start⟩
  if endsWord (← peek 0) then return text
  else failExpecting .tag start .space

def versionNumber
    (start : Mark) : Reading Nat := do
  let digits ← takeWhile Char.isDigit
  if digits.isEmpty then failExpecting .directive start .digit
  return digits.foldl (fun n c => 10 * n + (c.toNat - 48)) 0

/-- The version that a directive declares. -/
def version
    (start : Mark) : Reading Directive := do
  skipSpaces
  let major ← versionNumber start
  if (← peek 0) ≠ some '.' then failExpecting .directive start .digitOrPoint
  skip 1
  let minor ← versionNumber start
  if !endsWord (← peek 0) then failExpecting .directive start .digitOrSpace
  return .version major minor

def handleDeclaration
    (start : Mark) : Reading Directive := do
  skipSpaces
  let handle ← tagHandle .directive start
  if (← peek 0) ≠ some ' ' then failExpecting .directive start .space
  skipSpaces
  let text ← address .directive .directiveAddress start
  if !endsWord (← peek 0) then failExpecting .directive start .space
  return .handle handle text

/-- Reads the rest of a line, which may hold a comment only. -/
def restOfLine
    (activity : Activity)
    (start : Mark) : Reading Unit := do
  skipSpaces
  skipComment
  if !endsLine (← peek 0) then failExpecting activity start .commentOrBreak
  discard lineBreak

/-- Reads a directive with its line, and gives it with the place where it ends. -/
def directive : Reading (Directive × Mark) := do
  let start ← place
  skip 1
  let name ← takeWhile isNameChar
  if name.isEmpty then failExpecting .directive start .alphanumeric
  if !endsWord (← peek 0) then failExpecting .directive start .alphanumeric
  let name := String.ofList name
  let declared ←
    if name = "YAML" then version start
    else if name = "TAG" then handleDeclaration start
    else pure (.other name)
  let stop ← place
  match declared with
  | .other _ => discard (takeWhile fun c => !isBreak c)
  | _ => pure ()
  restOfLine .directive start
  return (declared, stop)

end Tablewright.Document
