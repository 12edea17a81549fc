import Tablewright.Console.Pattern
import Tablewright.Log
import Tablewright.Text.Occurrence

/-!
# How records look on the console

A record is laid out by a pattern, and in colour if colours are wanted and the console is a
terminal. From warnings on the level gives the colour. Below, messages that begin with one of three
marks, or hold a rule, have the colour of these.
-/

namespace Tablewright.Console

/-- What begins the message of a success. -/
def successMark : String := "✓ "

/-- What begins the message of a step of work. -/
def progressMark : String := "→ "

/-- What begins the message of a finding. -/
def highlightMark : String := "• "

/-- The rule above and below a heading. -/
def rule : String := String.ofList (List.replicate 60 '=')

/-- A terminal code that switches a colour on. -/
def colorCode
    (number : String) : String :=
  "\x1b[" ++ number ++ "m"

/-- The terminal code for bold letters. -/
def bold : String := colorCode "1"

/-- The terminal code that ends all colours. -/
def reset : String := colorCode "0"

/-- The colour of a level, if it has one. -/
def levelColor
    (level : LogLevel) : String :=
  if level = LogLevel.debug then colorCode "36"
  else if level = LogLevel.info then colorCode "32"
  else if level = LogLevel.warning then colorCode "33"
  else if level = LogLevel.error then colorCode "31"
  else if level = LogLevel.critical then colorCode "35"
  else ""

/-- The colour of a record, or the empty text if it has none. -/
def colorOf
    (record : LogRecord) : String :=
  let message := record.message
  if LogLevel.warning ≤ record.level then levelColor record.level
  else if message.startsWith successMark then colorCode "92" ++ bold
  else if message.startsWith progressMark then colorCode "94"
  else if message.startsWith highlightMark then colorCode "96"
  else if Text.occursIn rule message then bold ++ colorCode "96"
  else if record.level = LogLevel.debug then levelColor record.level
  else ""

/-- A text between the colour of a record and the end of colours. -/
def paint
    (record : LogRecord)
    (text : String) : String :=
  let color := colorOf record
  if color = "" then text else color ++ text ++ reset

/-- The layout of records when none is given. -/
def standardLayout : String := "%(levelname)s: %(message)s"

/-- A record in the standard layout. -/
def standardText
    (record : LogRecord) : String :=
  LogLevel.name record.level ++ ": " ++ record.message

/-- Where a record came from. -/
structure Origin where
  logger : String
  file : String
  line : Nat
  deriving Repr, DecidableEq

/-- The fields that the layout of a record can name. -/
def recordFields
    (origin : Origin)
    (record : LogRecord) : List (Value × Value) :=
  [(.text "name", .text origin.logger),
    (.text "levelname", .text (LogLevel.name record.level)),
    (.text "levelno", .int record.level),
    (.text "pathname", .text origin.file),
    (.text "filename", .text origin.file),
    (.text "module", .text (String.ofList (origin.file.toList.takeWhile fun c => c ≠ '.'))),
    (.text "lineno", .int origin.line),
    (.text "funcName", .null),
    (.text "exc_info", .null),
    (.text "exc_text", .null),
    (.text "stack_info", .null),
    (.text "threadName", .text "MainThread"),
    (.text "processName", .text "MainProcess"),
    (.text "message", .text record.message)]

/-- Why records cannot be laid out. -/
inductive LayoutError where
  /-- The layout has no field with a name. -/
  | withoutField (layout : String)
  | unknownField (name : String)
  | pattern (error : PatternError)
  deriving Repr, DecidableEq

/-- The wording of an error. -/
def LayoutError.message : LayoutError → String
  | .withoutField layout => "Invalid format '" ++ layout ++ "' for '%' style"
  | .unknownField name => "Formatting field not found in record: " ++ Text.quoted name
  | .pattern error => error.message

/-- A pattern for records that has a field with a name. -/
structure RecordLayout where
  pattern : String
  hasField : Pattern.hasLayoutField pattern.toList = true

/-- The layout of a text. The empty text stands for the message alone. -/
def RecordLayout.ofText
    (text : String) : Except LayoutError RecordLayout :=
  let pattern := if text = "" then "%(message)s" else text
  if h : Pattern.hasLayoutField pattern.toList = true then .ok ⟨pattern, h⟩
  else .error (.withoutField pattern)

def RecordLayout.text
    (layout : RecordLayout)
    (origin : Origin)
    (record : LogRecord) : Except LayoutError String :=
  match Pattern.fill layout.pattern ⟨[], some (recordFields origin record)⟩ with
  | .ok text => .ok text
  | .error (.missingName name) => .error (.unknownField name)
  | .error error => .error (.pattern error)

/-- The message of a record that is given as a pattern with values. Without values the pattern
stands as it is, and a single mapping serves fields with names. -/
def messageOf
    (pattern : String)
    (values : List Value) : Except PatternError String :=
  match values with
  | [] => .ok pattern
  | [.map (entry :: rest)] =>
      Pattern.fill pattern ⟨[.map (entry :: rest)], some (entry :: rest)⟩
  | values => Pattern.fill pattern ⟨values, none⟩

end Tablewright.Console
