import Tablewright.Log
import Tablewright.Schema.Grammar.Statement
import Tablewright.Schema.Lexeme
import Tablewright.Schema.Tables

/-!
# Tables of a schema text

The text of a schema is read statement by statement. What cannot be read does not hide the tables
of the statements before it, but is warned of.
-/

namespace Tablewright.Schema

/-- What a text holds. -/
def read
    (text : String) : Reader.Reading :=
  let tokens := tokens text
  Reader.statements (stepsFor tokens) tokens.length tokens

/-- The tree of a text. -/
def Reader.Reading.tree
    (reading : Reader.Reading) : Tree :=
  .group reading.trees

def tablesOfText
    (text : String) : List String :=
  (read text).tree.tables

/-- What is logged about a text. -/
def readingLog
    (text : String) : List LogRecord :=
  if (read text).broken then
    [.warning "Schema source contains syntax errors; extracted tables may be incomplete."]
  else []

end Tablewright.Schema
