import Tablewright.Document.Number
import Tablewright.Document.Time

/-!
# Tags

A tag says what kind of value a node stands for. A plain scalar without a tag has the one that its
form suggests.
-/

namespace Tablewright.Document

/-- A kind of values, or an address that stands for no known one. -/
inductive Tag where
  | null
  | bool
  | int
  | float
  | binary
  | timestamp
  | orderedMap
  | pairs
  | set
  | text
  | sequence
  | mapping
  | merge
  | value
  | other (address : String)
  deriving Repr, DecidableEq

namespace Tag

/-- The beginning of the addresses of known tags. -/
def standardAddress : String :=
  "tag:yaml.org,2002:"

/-- The known tags with the last parts of their addresses. -/
def known : List (String × Tag) :=
  [("null", .null), ("bool", .bool), ("int", .int), ("float", .float), ("binary", .binary),
    ("timestamp", .timestamp), ("omap", .orderedMap), ("pairs", .pairs), ("set", .set),
    ("str", .text), ("seq", .sequence), ("map", .mapping), ("merge", .merge), ("value", .value)]

def ofAddress
    (address : String) : Tag :=
  match known.find? fun (name, _) => standardAddress ++ name = address with
  | some (_, tag) => tag
  | none => .other address

def address : Tag → String
  | .other address => address
  | tag =>
      match known.find? fun entry => entry.2 = tag with
      | some (name, _) => standardAddress ++ name
      | none => ""

/-- Words that stand for truth values. -/
def truthWords : List String :=
  ["yes", "Yes", "YES", "no", "No", "NO", "true", "True", "TRUE", "false", "False", "FALSE",
    "on", "On", "ON", "off", "Off", "OFF"]

/-- Words that stand for nothing. -/
def nullWords : List String :=
  ["~", "null", "Null", "NULL", ""]

/-- The tag that the form of a text suggests. -/
def ofForm
    (text : List Char) : Tag :=
  let word := String.ofList text
  if truthWords.contains word then .bool
  else if looksLikeFloat text then .float
  else if looksLikeInteger text then .int
  else if word = "<<" then .merge
  else if nullWords.contains word then .null
  else if looksLikeTime text then .timestamp
  else if word = "=" then .value
  else if word = "!" || word = "&" || word = "*" then .other (standardAddress ++ "yaml")
  else .text

/-- The text without a line feed at its end, unless there is nothing else. -/
def withoutFinalBreak
    (text : List Char) : List Char :=
  if 1 < text.length && text.getLast? = some '\n' then text.dropLast else text

/-- The tag of a plain scalar. A line feed at its end does not count. -/
def ofPlain
    (text : String) : Tag :=
  ofForm (withoutFinalBreak text.toList)

end Tag

end Tablewright.Document
