/-!
# Log records

What the generator and the generated class report while they work: a level, of which the common
ones have names, and a message.
-/

namespace Tablewright

/-- How much a record matters; greater is more. -/
abbrev LogLevel := Int

namespace LogLevel

/-- Details of interest while looking for a fault. -/
def debug : LogLevel := 10

/-- The course of a run. -/
def info : LogLevel := 20

/-- Something unexpected that a run can go on after. -/
def warning : LogLevel := 30

/-- A failure. -/
def error : LogLevel := 40

/-- A failure that ends everything. -/
def critical : LogLevel := 50

def name
    (level : LogLevel) : String :=
  if level = 0 then "NOTSET"
  else if level = debug then "DEBUG"
  else if level = info then "INFO"
  else if level = warning then "WARNING"
  else if level = error then "ERROR"
  else if level = critical then "CRITICAL"
  else "Level " ++ toString level

end LogLevel

/-- A level and a message. -/
structure LogRecord where
  level : LogLevel
  message : String
  deriving Repr, DecidableEq

namespace LogRecord

/-- A record of details. -/
def debug
    (message : String) : LogRecord :=
  ⟨LogLevel.debug, message⟩

/-- A record of the course of a run. -/
def info
    (message : String) : LogRecord :=
  ⟨LogLevel.info, message⟩

/-- A record of something unexpected. -/
def warning
    (message : String) : LogRecord :=
  ⟨LogLevel.warning, message⟩

/-- A record of a failure. -/
def error
    (message : String) : LogRecord :=
  ⟨LogLevel.error, message⟩

end LogRecord

end Tablewright
