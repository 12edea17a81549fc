import Tablewright.Document.Fault

/-!
# Reading characters

Steps that read characters of a document from a cursor on, and fail with a fault.
-/

namespace Tablewright.Document

/-- A step that reads characters. -/
abbrev Reading := StateT Cursor (Except Fault)

namespace Reading

/-- The place that has been reached. -/
def place : Reading Mark := do
  return (← get).mark

/-- The next character but `count`, if there are as many. -/
def peek
    (count : Nat) : Reading (Option Char) := do
  return (← get).rest[count]?

/-- Goes past characters. -/
def skip
    (count : Nat) : Reading Unit :=
  modify (·.skip count)

def take
    (count : Nat) : Reading (List Char) := do
  let cursor ← get
  skip count
  return cursor.rest.take count

/-- Reads as many characters as belong to a class. -/
def takeWhile
    (belongs : Char → Bool) : Reading (List Char) := do
  take ((← get).rest.takeWhile belongs).length

/-- Goes past spaces. -/
def skipSpaces : Reading Unit := do
  discard (takeWhile (· = ' '))

/-- Goes past a comment, if there is one. -/
def skipComment : Reading Unit := do
  if (← peek 0) = some '#' then discard (takeWhile fun c => !isBreak c)

/-- Reads a line end, if there is one. The next-line character is read as a line feed. -/
def lineBreak : Reading (List Char) := do
  match (← peek 0) with
  | none => return []
  | some c =>
      if isBreak c then
        skip 1
        return [if c = '\u0085' then '\n' else c]
      else return []

/-- Fails with a problem at the place that has been reached. -/
def fail
    {α : Type}
    (activity : Option (Activity × Option Mark))
    (problem : Problem) : Reading α := do
  throw (.located activity problem (← place))

/-- Fails as something else than what comes next was expected. -/
def failExpecting
    {α : Type}
    (activity : Activity)
    (start : Mark)
    (wanted : Expected) : Reading α := do
  fail (some (activity, some start)) (.expected wanted (← peek 0))

/-- Whether a line that begins a document or ends one comes next. -/
def atSeparator : Reading Bool := do
  match (← get).rest with
  | '-' :: '-' :: '-' :: rest => return isGap rest.head?
  | '.' :: '.' :: '.' :: rest => return isGap rest.head?
  | _ => return false

end Reading

end Tablewright.Document
