import Tablewright.Console.Style
import Tablewright.Text.Case

/-!
# Logging to the console

A console has handlers, each of which writes the records from its level on, laid out in the
standard way with one line end after each. Setting the console up leaves exactly one handler, so
that setting it up again changes nothing.
-/

namespace Tablewright.Console

/-- What writes records. -/
structure Handler where
  level : LogLevel
  colored : Bool
  deriving Repr, DecidableEq

/-- A console, with the least level of records that are passed to its handlers. -/
structure Logging where
  level : LogLevel
  handlers : List Handler
  deriving Repr, DecidableEq

/-- The text of a record, in colour if that is wanted. -/
def recordText
    (colored : Bool)
    (record : LogRecord) : String :=
  if colored then paint record (standardText record) else standardText record

/-- A text without the line end that it ends with. -/
def withoutLineEnd
    (text : String) : String :=
  let chars := text.toList
  if chars.getLast? = some '\n' then String.ofList chars.dropLast else text

namespace Handler

def write
    (handler : Handler)
    (record : LogRecord) : String :=
  if handler.level ≤ record.level then recordText handler.colored record ++ "\n" else ""

/-- What the handler writes for a record that details follow, up to where these begin. -/
def writeOpen
    (handler : Handler)
    (record : LogRecord) : String :=
  if handler.level ≤ record.level then
    (if handler.colored then colorOf record else "") ++ withoutLineEnd (standardText record)
  else ""

end Handler

namespace Logging

/-- A console that nothing is written to. -/
def silent : Logging :=
  ⟨LogLevel.warning, []⟩

/-- The console without a handler. -/
def removeHandler
    (logging : Logging)
    (handler : Handler) : Logging :=
  { logging with handlers := logging.handlers.erase handler }

/-- The console with a handler more, which writes after the others. -/
def addHandler
    (logging : Logging)
    (handler : Handler) : Logging :=
  { logging with handlers := logging.handlers ++ [handler] }

/-- Sets a console up for a level, in colour if that is wanted and the console is a terminal. The
handlers that it has had are removed one by one. -/
def setUp
    (level : LogLevel)
    (useColors terminal : Bool)
    (logging : Logging) : Logging :=
  let cleared := logging.handlers.foldl removeHandler logging
  { cleared.addHandler ⟨level, useColors && terminal⟩ with level := level }

/-- What is written for a record. No record has a level of zero or below. -/
def write
    (logging : Logging)
    (record : LogRecord) : String :=
  if 0 < record.level ∧ logging.level ≤ record.level then
    String.join (logging.handlers.map fun handler => handler.write record)
  else ""

/-- What is written for a record that details follow, up to where these begin. -/
def writeOpen
    (logging : Logging)
    (record : LogRecord) : String :=
  if 0 < record.level ∧ logging.level ≤ record.level then
    String.join (logging.handlers.map fun handler => handler.writeOpen record)
  else ""

def writeAll
    (logging : Logging)
    (records : List LogRecord) : String :=
  String.join (records.map logging.write)

end Logging

def success
    (message : String) : LogRecord :=
  .info (successMark ++ message)

/-- The record of a step of work. -/
def progress
    (message : String) : LogRecord :=
  .info (progressMark ++ message)

/-- The record of a finding. -/
def highlight
    (message : String) : LogRecord :=
  .info (highlightMark ++ message)

def heading
    (title : String) : List LogRecord :=
  [.info rule, .info ("  " ++ Text.upper title), .info rule]

/-- Why a value names no level. -/
inductive LevelError where
  | unknown (name : String)
  | notALevel (value : Value)
  deriving Repr

/-- The wording of an error. -/
def LevelError.message : LevelError → String
  | .unknown name => "Unknown level: " ++ Text.quoted name
  | .notALevel value => "Level not an integer or a valid string: " ++ value.quote

/-- The levels that have names in settings. -/
def namedLevels : List (String × LogLevel) :=
  [("CRITICAL", LogLevel.critical), ("FATAL", LogLevel.critical), ("ERROR", LogLevel.error),
    ("WARN", LogLevel.warning), ("WARNING", LogLevel.warning), ("INFO", LogLevel.info),
    ("DEBUG", LogLevel.debug), ("NOTSET", 0)]

/-- The level that a value names. -/
def levelOfValue : Value → Except LevelError LogLevel
  | .int n => .ok n
  | .bool b => .ok (if b then 1 else 0)
  | .text name =>
      match namedLevels.lookup name with
      | some level => .ok level
      | none => .error (.unknown name)
  | value => .error (.notALevel value)

end Tablewright.Console
