import Tablewright.Document.Mark
import Tablewright.Text.Quoted

/-!
# Faults of documents

Why a document cannot be read. Most faults name what was being read, and from where on, beside the
problem and its place.
-/

namespace Tablewright.Document

/-- What was being read. -/
inductive Activity where
  | nextToken
  | simpleKey
  | directive
  | directiveAddress
  | alias
  | anchor
  | tag
  | tagAddress
  | blockScalar
  | quotedScalar
  | doubleQuotedScalar
  | node
  | blockNode
  | flowNode
  | blockSequence
  | blockMapping
  | flowSequence
  | flowMapping
  | firstAnchor (name : String)
  | onlyDocument
  | mappingValue
  | orderedMap
  | pairs
  deriving Repr, DecidableEq

/-- The wording of an activity. -/
def Activity.text : Activity → String
  | .nextToken => "while scanning for the next token"
  | .simpleKey => "while scanning a simple key"
  | .directive => "while scanning a directive"
  | .directiveAddress => "while parsing a directive"
  | .alias => "while scanning an alias"
  | .anchor => "while scanning an anchor"
  | .tag => "while scanning a tag"
  | .tagAddress => "while parsing a tag"
  | .blockScalar => "while scanning a block scalar"
  | .quotedScalar => "while scanning a quoted scalar"
  | .doubleQuotedScalar => "while scanning a double-quoted scalar"
  | .node => "while parsing a node"
  | .blockNode => "while parsing a block node"
  | .flowNode => "while parsing a flow node"
  | .blockSequence => "while parsing a block collection"
  | .blockMapping => "while parsing a block mapping"
  | .flowSequence => "while parsing a flow sequence"
  | .flowMapping => "while parsing a flow mapping"
  | .firstAnchor name =>
      "found duplicate anchor " ++ Text.quoted name ++ "; first occurrence"
  | .onlyDocument => "expected a single document in the stream"
  | .mappingValue => "while constructing a mapping"
  | .orderedMap => "while constructing an ordered map"
  | .pairs => "while constructing pairs"

/-- What was expected where something else was found, which may be the end of the text. -/
inductive Expected where
  | alphanumeric
  | digit
  | digitOrPoint
  | digitOrSpace
  | space
  | exclamationMark
  | closingAngle
  | address
  | addressEscape
  | characterEscape (width : Nat)
  | blockIndicators
  | commentOrBreak
  deriving Repr, DecidableEq

/-- The wording of what was expected. -/
def Expected.text : Expected → String
  | .alphanumeric => "alphabetic or numeric character"
  | .digit => "a digit"
  | .digitOrPoint => "a digit or '.'"
  | .digitOrSpace => "a digit or ' '"
  | .space => "' '"
  | .exclamationMark => "'!'"
  | .closingAngle => "'>'"
  | .address => "URI"
  | .addressEscape => "URI escape sequence of 2 hexadecimal numbers"
  | .characterEscape width => "escape sequence of " ++ toString width ++ " hexadecimal numbers"
  | .blockIndicators => "chomping or indentation indicators"
  | .commentOrBreak => "a comment or a line break"

/-- The kinds of nodes, as they are named in problems. -/
inductive Shape where
  | scalar
  | sequence
  | mapping
  deriving Repr, DecidableEq

/-- The name of a kind of nodes. -/
def Shape.name : Shape → String
  | .scalar => "scalar"
  | .sequence => "sequence"
  | .mapping => "mapping"

/-- What is wrong at a place. -/
inductive Problem where
  | unusableCharacter (c : Char)
  | missingColon
  | misplacedEntry
  | misplacedKey
  | misplacedValue
  | expected (wanted : Expected) (found : Option Char)
  | undecodableEscape (reason : String)
  | zeroIndentation
  | unclosedScalar
  | separatorInScalar
  | unknownEscape (found : Option Char)
  | noNode (found : String)
  | noBlockEnd (found : String)
  | noSequenceEnd (found : String)
  | noMappingEnd (found : String)
  | noDocumentStart (found : String)
  | secondVersion
  | incompatibleVersion
  | repeatedHandle (handle : String)
  | undefinedHandle (handle : String)
  | undefinedAlias (name : String)
  | secondAnchor
  | secondDocument
  | unknownTag (address : String)
  | otherShape (wanted found : Shape)
  | unhashableKey
  | unmergeable (found : Shape)
  | unmergeableItem (found : Shape)
  | noEntrySequence (found : Shape)
  | noEntry (found : Shape)
  | notOneEntry (count : Nat)
  | notAscii (reason : String)
  | notBase64 (reason : String)
  deriving Repr, DecidableEq

/-- A character found in a text, the end of which counts as the null character. -/
def quoteFound
    (found : Option Char) : String :=
  Text.quoted (String.ofList [found.getD '\x00'])

/-- The wording of a problem. -/
def Problem.text : Problem → String
  | .unusableCharacter c =>
      "found character " ++ quoteFound (some c) ++ " that cannot start any token"
  | .missingColon => "could not find expected ':'"
  | .misplacedEntry => "sequence entries are not allowed here"
  | .misplacedKey => "mapping keys are not allowed here"
  | .misplacedValue => "mapping values are not allowed here"
  | .expected wanted found => "expected " ++ wanted.text ++ ", but found " ++ quoteFound found
  | .undecodableEscape reason => reason
  | .zeroIndentation => "expected indentation indicator in the range 1-9, but found 0"
  | .unclosedScalar => "found unexpected end of stream"
  | .separatorInScalar => "found unexpected document separator"
  | .unknownEscape found => "found unknown escape character " ++ quoteFound found
  | .noNode found => "expected the node content, but found " ++ Text.quoted found
  | .noBlockEnd found => "expected <block end>, but found " ++ Text.quoted found
  | .noSequenceEnd found => "expected ',' or ']', but got " ++ Text.quoted found
  | .noMappingEnd found => "expected ',' or '\x7d', but got " ++ Text.quoted found
  | .noDocumentStart found => "expected '<document start>', but found " ++ Text.quoted found
  | .secondVersion => "found duplicate YAML directive"
  | .incompatibleVersion => "found incompatible YAML document (version 1.* is required)"
  | .repeatedHandle handle => "duplicate tag handle " ++ Text.quoted handle
  | .undefinedHandle handle => "found undefined tag handle " ++ Text.quoted handle
  | .undefinedAlias name => "found undefined alias " ++ Text.quoted name
  | .secondAnchor => "second occurrence"
  | .secondDocument => "but found another document"
  | .unknownTag address => "could not determine a constructor for the tag " ++ Text.quoted address
  | .otherShape wanted found =>
      "expected a " ++ wanted.name ++ " node, but found " ++ found.name
  | .unhashableKey => "found unhashable key"
  | .unmergeable found =>
      "expected a mapping or list of mappings for merging, but found " ++ found.name
  | .unmergeableItem found => "expected a mapping for merging, but found " ++ found.name
  | .noEntrySequence found => "expected a sequence, but found " ++ found.name
  | .noEntry found => "expected a mapping of length 1, but found " ++ found.name
  | .notOneEntry count =>
      "expected a single mapping item, but found " ++ toString count ++ " items"
  | .notAscii reason => "failed to convert base64 data into ascii: " ++ reason
  | .notBase64 reason => "failed to decode base64 data: " ++ reason

/-- Why a text that has the form of a kind of values is no value of the kind. -/
inductive ScalarFault where
  | truth (text : String)
  | noCharacter
  | integer (base : Nat) (text : String)
  | longInteger (digits : Nat)
  | float (text : String)
  | noTime
  | yearRange (year : Nat)
  | monthRange
  | dayRange
  | hourRange
  | minuteRange
  | secondRange
  | zoneRange (minutes : Int)
  | characterRange
  | characterOverflow
  deriving Repr, DecidableEq

/-- A distance in time as a constructor call. -/
def quoteDistance
    (minutes : Int) : String :=
  let days : Int := minutes / 1440
  let seconds : Int := minutes % 1440 * 60
  let parts :=
    (if days = 0 then [] else ["days=" ++ toString days]) ++
      (if seconds = 0 then [] else ["seconds=" ++ toString seconds])
  "datetime.timedelta(" ++ (if parts.isEmpty then "0" else String.intercalate ", " parts) ++ ")"

/-- The wording of a fault of a scalar. -/
def ScalarFault.message : ScalarFault → String
  | .truth text => Text.quoted text
  | .noCharacter => "string index out of range"
  | .integer base text =>
      "invalid literal for int() with base " ++ toString base ++ ": " ++ Text.quoted text
  | .longInteger digits =>
      "Exceeds the limit (4300 digits) for integer string conversion: value has " ++
        toString digits ++ " digits; use sys.set_int_max_str_digits() to increase the limit"
  | .float text => "could not convert string to float: " ++ Text.quoted text
  | .noTime => "'NoneType' object has no attribute 'groupdict'"
  | .yearRange year => "year " ++ toString year ++ " is out of range"
  | .monthRange => "month must be in 1..12"
  | .dayRange => "day is out of range for month"
  | .hourRange => "hour must be in 0..23"
  | .minuteRange => "minute must be in 0..59"
  | .secondRange => "second must be in 0..59"
  | .zoneRange minutes =>
      "offset must be a timedelta strictly between -timedelta(hours=24) and " ++
        "timedelta(hours=24), not " ++ quoteDistance minutes ++ "."
  | .characterRange => "chr() arg not in range(0x110000)"
  | .characterOverflow => "Python int too large to convert to C int"

/-- Why a document cannot be read. -/
inductive Fault where
  /-- A character that no document may hold. -/
  | forbiddenCharacter (code : Nat) (position : Nat)
  /-- A problem at a place, and what was being read from an earlier place on. -/
  | located (activity : Option (Activity × Option Mark)) (problem : Problem) (mark : Mark)
  /-- A scalar that is no value of its kind. -/
  | scalar (fault : ScalarFault)
  deriving Repr, DecidableEq

/-- The lines that tell what was being read. Its place is left out if it is that of the problem. -/
def activityLines
    (document : String)
    (activity? : Option (Activity × Option Mark))
    (problemMark : Mark) : List String :=
  match activity? with
  | none => []
  | some (activity, none) => [activity.text]
  | some (activity, some mark) =>
      if mark.line = problemMark.line ∧ mark.column = problemMark.column then [activity.text]
      else [activity.text, mark.text document]

/-- The wording of a fault in a document that has a name. -/
def Fault.message
    (document : String) : Fault → String
  | .forbiddenCharacter code position =>
      "unacceptable character #x" ++ String.ofList (Text.hexDigits 4 code) ++
        ": special characters are not allowed\n  in \"" ++ document ++ "\", position " ++
        toString position
  | .located activity? problem mark =>
      String.intercalate "\n"
        (activityLines document activity? mark ++ [problem.text, mark.text document])
  | .scalar fault => fault.message

end Tablewright.Document
