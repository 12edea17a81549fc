import Tablewright.Document.Fault
import Tablewright.Value.Basic

/-!
# Times in documents

A day, or a time on a day with perhaps a fraction of a second and a zone, as digits between
separators. That a text has this form does not yet make it a time of the calendar.
-/

namespace Tablewright.Document

/-- A time of day as it is written. -/
structure WrittenClock where
  hour : List Char
  minute : List Char
  second : List Char
  fraction : List Char
  /-- The distance from universal time in minutes. -/
  zone : Option Int
  deriving Repr, DecidableEq

/-- A time as it is written. -/
structure WrittenTime where
  year : List Char
  month : List Char
  day : List Char
  clock : Option WrittenClock
  deriving Repr, DecidableEq

/-- The number that digits stand for. -/
def numberOfDigits
    (digits : List Char) : Nat :=
  digits.foldl (fun n c => 10 * n + (c.toNat - 48)) 0

/-- A number of digits between two bounds at the beginning of a text, and what follows. -/
def digitsWithin?
    (least most : Nat)
    (text : List Char) : Option (List Char × List Char) :=
  let digits := (text.takeWhile Char.isDigit).take most
  if least ≤ digits.length then some (digits, text.drop digits.length) else none

/-- What follows a character at the beginning of a text. -/
def after?
    (c : Char) : List Char → Option (List Char)
  | [] => none
  | other :: rest => if other = c then some rest else none

/-- The text without spaces and tabs at its beginning. -/
def withoutBlanks
    (text : List Char) : List Char :=
  text.dropWhile fun c => c = ' ' || c = '\t'

/-- The distance from universal time that a text consists of. -/
def zoneOf? : List Char → Option Int
  | ['Z'] => some 0
  | sign :: rest => do
      let factor : Int ← if sign = '+' then some 1 else if sign = '-' then some (-1) else none
      let (hours, rest) ← digitsWithin? 1 2 rest
      let minutes ←
        match rest with
        | [] => some []
        | _ => do
            let (minutes, rest) ← digitsWithin? 2 2 (← after? ':' rest)
            if rest.isEmpty then some minutes else none
      return factor * (60 * numberOfDigits hours + numberOfDigits minutes : Nat)
  | [] => none

/-- The time of day that a text consists of. -/
def clockOf?
    (text : List Char) : Option WrittenClock := do
  let (hour, rest) ← digitsWithin? 1 2 text
  let (minute, rest) ← digitsWithin? 2 2 (← after? ':' rest)
  let (second, rest) ← digitsWithin? 2 2 (← after? ':' rest)
  let (fraction, rest) :=
    match rest with
    | '.' :: places => (places.takeWhile Char.isDigit, places.dropWhile Char.isDigit)
    | _ => ([], rest)
  let zone ← if rest.isEmpty then some none else (zoneOf? (withoutBlanks rest)).map some
  return ⟨hour, minute, second, fraction, zone⟩

/-- The time that a text consists of. -/
def writtenTime?
    (text : List Char) : Option WrittenTime := do
  let (year, rest) ← digitsWithin? 4 4 text
  let (month, rest) ← digitsWithin? 1 2 (← after? '-' rest)
  let (day, rest) ← digitsWithin? 1 2 (← after? '-' rest)
  let clock ←
    match rest with
    | [] => some none
    | c :: rest =>
        if c = 'T' || c = 't' then (clockOf? rest).map some
        else if c = ' ' || c = '\t' then (clockOf? (withoutBlanks rest)).map some
        else none
  return ⟨year, month, day, clock⟩

/-- Whether a text has the form of a time without being called one. A day alone has to be written
with all digits. -/
def looksLikeTime
    (text : List Char) : Bool :=
  match writtenTime? text with
  | none => false
  | some time => time.clock.isSome || (time.month.length = 2 && time.day.length = 2)

/-- Whether a year has a day more. -/
def isLeapYear
    (year : Nat) : Bool :=
  year % 4 = 0 && (year % 100 ≠ 0 || year % 400 = 0)

/-- The number of days of a month. -/
def daysOfMonth
    (year month : Nat) : Nat :=
  if month = 2 then (if isLeapYear year then 29 else 28)
  else if month = 4 || month = 6 || month = 9 || month = 11 then 30
  else 31

/-- The day of the calendar with these numbers. -/
def dayOf
    (year month day : Nat) : Except ScalarFault Day :=
  if year = 0 then .error (.yearRange year)
  else if month = 0 || 12 < month then .error .monthRange
  else if day = 0 || daysOfMonth year month < day then .error .dayRange
  else .ok ⟨year, month, day⟩

/-- The millionths of a second of a fraction. Further digits do not count. -/
def microseconds
    (fraction : List Char) : Nat :=
  let digits := fraction.take 6
  numberOfDigits (digits ++ List.replicate (6 - digits.length) '0')

/-- The value of a text that is called a time. -/
def timeOf
    (text : List Char) : Except ScalarFault Value := do
  match writtenTime? text with
  | none => throw .noTime
  | some ⟨year, month, day, none⟩ =>
      return .date (← dayOf (numberOfDigits year) (numberOfDigits month) (numberOfDigits day))
  | some ⟨year, month, day, some clock⟩ =>
      match clock.zone with
      | some zone => if 1440 ≤ zone.natAbs then throw (.zoneRange zone)
      | none => pure ()
      let day ← dayOf (numberOfDigits year) (numberOfDigits month) (numberOfDigits day)
      let hour := numberOfDigits clock.hour
      let minute := numberOfDigits clock.minute
      let second := numberOfDigits clock.second
      if 23 < hour then throw .hourRange
      if 59 < minute then throw .minuteRange
      if 59 < second then throw .secondRange
      return .moment ⟨day, hour, minute, second, microseconds clock.fraction, clock.zone⟩

end Tablewright.Document
