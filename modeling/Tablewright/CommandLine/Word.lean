import Tablewright.CommandLine.Choice
import Tablewright.Text.Digit
import Tablewright.Text.Quoted

/-!
# Words of the command line

A word is an operand, the separator, or names an option. Long names may be shortened as long as they
stand for one option only. After the separator all words are operands.
-/

namespace Tablewright.CommandLine

/-- Why a command line cannot be followed. -/
inductive Misuse where
  | ambiguous (word : String) (names : List String)
  | withoutValue (choice : Choice)
  | needlessValue (choice : Choice) (value : String)
  | missing (operands : List String)
  | unrecognized (words : List String)
  deriving Repr, DecidableEq

/-- The wording of a misuse. -/
def Misuse.message : Misuse → String
  | .ambiguous word names =>
      "ambiguous option: " ++ word ++ " could match " ++ String.intercalate ", " names
  | .withoutValue choice => "argument " ++ choice.label ++ ": expected one argument"
  | .needlessValue choice value =>
      "argument " ++ choice.label ++ ": ignored explicit argument " ++ Text.quoted value
  | .missing operands =>
      "the following arguments are required: " ++ String.intercalate ", " operands
  | .unrecognized words => "unrecognized arguments: " ++ String.intercalate " " words

/-- An option where it occurs, with the value that its word holds. -/
structure Occurrence where
  choice : Choice
  byLetter : Bool
  value? : Option (List Char)
  deriving Repr, DecidableEq

/-- A word by its role. -/
inductive Word where
  | operand (text : String)
  | separator
  | option (occurrence : Occurrence)
  /-- A word that looks like an option and is none. -/
  | unknown (text : String)
  deriving Repr, DecidableEq

/-- The word that ends the options. -/
def separatorText : String := "--"

/-- Whether the characters are a number without its sign: digits, with or without a point before
the last of them. A line end may follow. -/
def isNumberBody
    (chars : List Char) : Bool :=
  let body := if chars.getLast? = some '\n' then chars.dropLast else chars
  let whole := body.takeWhile Text.isDecimalDigit
  match body.drop whole.length with
  | [] => !whole.isEmpty
  | '.' :: part => !part.isEmpty && part.all Text.isDecimalDigit
  | _ => false

/-- The text before the first equals sign, and the text after it if there is one. -/
def splitValue
    (chars : List Char) : List Char × Option (List Char) :=
  let name := chars.takeWhile fun c => c ≠ '='
  match chars.drop name.length with
  | [] => (name, none)
  | _ :: value => (name, some value)

/-- The role of a word that begins with a dash and names no option, not even in short. -/
def Word.ofStrange
    (text : String) : Word :=
  let chars := text.toList
  if isNumberBody (chars.drop 1) || chars.contains ' ' then .operand text else .unknown text

/-- The role of a word that begins with two dashes and names no option in full. -/
def Word.ofAbbreviation
    (text : String) : Except Misuse Word :=
  let (name, value?) := splitValue text.toList
  match Choice.abbreviatedBy name with
  | [] => .ok (Word.ofStrange text)
  | [choice] => .ok (.option ⟨choice, false, value?⟩)
  | choices => .error (.ambiguous text (choices.map Choice.longName))

/-- The role of a word that begins with one dash and names no option in full. -/
def Word.ofLetters
    (text : String)
    (first : Char)
    (rest : List Char) : Word :=
  match Choice.ofLetter? first with
  | some choice => .option ⟨choice, true, some rest⟩
  | none => Word.ofStrange text

/-- The role of a word before the separator. -/
def Word.ofText
    (text : String) : Except Misuse Word :=
  let (name, value?) := splitValue text.toList
  match text.toList with
  | '-' :: second :: rest =>
      match Choice.ofName? (String.ofList name) with
      | some choice => .ok (.option ⟨choice, second ≠ '-', value?⟩)
      | none =>
          if second = '-' then
            if rest.isEmpty then .ok .separator else Word.ofAbbreviation text
          else .ok (Word.ofLetters text second rest)
  | _ => .ok (.operand text)

/-- The roles of words. -/
def Word.ofTexts : List String → Except Misuse (List Word)
  | [] => .ok []
  | text :: rest => do
      match (← Word.ofText text) with
      | .separator => return .separator :: rest.map Word.operand
      | word => return word :: (← Word.ofTexts rest)

end Tablewright.CommandLine
