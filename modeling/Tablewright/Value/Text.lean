import Tablewright.Decimal.Layout
import Tablewright.Text.Quoted
import Tablewright.Text.Utf8
import Tablewright.Value.Basic

/-!
# Values in messages

A value is written in two ways: quoted, as it stands in source code of the generated language, and
plain, which differs for texts, days and times only.
-/

namespace Tablewright

/-- A number with zeros before it, up to a width. -/
def padded
    (width n : Nat) : String :=
  let digits := toString n
  String.ofList (List.replicate (width - digits.length) '0') ++ digits

/-- A day as year, month and day. -/
def Day.display
    (day : Day) : String :=
  padded 4 day.year ++ "-" ++ padded 2 day.month ++ "-" ++ padded 2 day.day

/-- A day as a constructor call. -/
def Day.quote
    (day : Day) : String :=
  "datetime.date(" ++ toString day.year ++ ", " ++ toString day.month ++ ", " ++
    toString day.day ++ ")"

/-- The distance of a zone from universal time. -/
def displayZone
    (minutes : Int) : String :=
  (if minutes < 0 then "-" else "+") ++ padded 2 (minutes.natAbs / 60) ++ ":" ++
    padded 2 (minutes.natAbs % 60)

/-- A time with its day and zone. -/
def Moment.display
    (moment : Moment) : String :=
  moment.day.display ++ " " ++ padded 2 moment.hour ++ ":" ++ padded 2 moment.minute ++ ":" ++
    padded 2 moment.second ++
    (if moment.microsecond = 0 then "" else "." ++ padded 6 moment.microsecond) ++
    (moment.zone.map displayZone).getD ""

/-- A distance in time as a constructor call. -/
def quoteZone
    (minutes : Int) : String :=
  if minutes = 0 then "datetime.timezone.utc"
  else
    let days : Int := minutes / 1440
    let seconds : Int := minutes % 1440 * 60
    "datetime.timezone(datetime.timedelta(" ++
      (if days = 0 then "" else "days=" ++ toString days ++ ", ") ++
      "seconds=" ++ toString seconds ++ "))"

/-- A time as a constructor call. -/
def Moment.quote
    (moment : Moment) : String :=
  let parts :=
    [moment.day.year, moment.day.month, moment.day.day, moment.hour, moment.minute] ++
      (if moment.microsecond ≠ 0 then [moment.second, moment.microsecond]
        else if moment.second ≠ 0 then [moment.second] else [])
  "datetime.datetime(" ++ String.intercalate ", " (parts.map toString) ++
    ((moment.zone.map fun zone => ", tzinfo=" ++ quoteZone zone).getD "") ++ ")"

/-- One byte inside a literal of bytes. -/
def quoteByte
    (quote : Char)
    (byte : UInt8) : List Char :=
  let c := Char.ofNat byte.toNat
  if c = quote ∨ c = '\\' then ['\\', c]
  else if c = '\t' then ['\\', 't']
  else if c = '\n' then ['\\', 'n']
  else if c = '\r' then ['\\', 'r']
  else if 32 ≤ byte.toNat ∧ byte.toNat < 127 then [c]
  else '\\' :: 'x' :: Text.hexDigits 2 byte.toNat

/-- Bytes as a literal. -/
def quoteBytes
    (content : List UInt8) : String :=
  let quote := Text.quoteFor (content.map fun byte => Char.ofNat byte.toNat)
  String.ofList ('b' :: quote :: content.flatMap (quoteByte quote) ++ [quote])

namespace Value

mutual

/-- A value as it stands in source code. -/
def quote : Value → String
  | .null => "None"
  | .bool b => if b then "True" else "False"
  | .int n => toString n
  | .float x => Decimal.text x
  | .text s => Text.quoted s
  | .bytes content => quoteBytes content
  | .date day => day.quote
  | .moment time => time.quote
  | .pair first second => "(" ++ quote first ++ ", " ++ quote second ++ ")"
  | .list items => "[" ++ String.intercalate ", " (quoteAll items) ++ "]"
  | .map entries => "\x7b" ++ String.intercalate ", " (quoteEntries entries) ++ "\x7d"
  | .set [] => "set()"
  | .set (first :: rest) =>
      "\x7b" ++ String.intercalate ", " (quote first :: quoteAll rest) ++ "\x7d"
  | .enclosing .list => "[...]"
  | .enclosing .map => "\x7b...\x7d"
  | .enclosing .set => "set(...)"

/-- Values as they stand in source code. -/
def quoteAll : List Value → List String
  | [] => []
  | value :: rest => quote value :: quoteAll rest

/-- Keys and values as they stand in source code. -/
def quoteEntries : List (Value × Value) → List String
  | [] => []
  | (key, value) :: rest => (quote key ++ ": " ++ quote value) :: quoteEntries rest

end

/-- A value as it stands in a message. -/
def display : Value → String
  | .text s => s
  | .date day => day.display
  | .moment time => time.display
  | value => value.quote

end Value

end Tablewright
