/-!
# Options of the command line

An option has a long name, and all but one have a letter that stands for it.
-/

namespace Tablewright.CommandLine

/-- What can be chosen on the command line. -/
inductive Choice where
  | help
  | config
  | verbose
  | noColor
  deriving Repr, DecidableEq

namespace Choice

/-- All options, in the order of the help text. -/
def all : List Choice :=
  [.help, .config, .verbose, .noColor]

def letter? : Choice → Option Char
  | .help => some 'h'
  | .config => some 'c'
  | .verbose => some 'v'
  | .noColor => none

/-- The long name of an option. -/
def longName : Choice → String
  | .help => "--help"
  | .config => "--config"
  | .verbose => "--verbose"
  | .noColor => "--no-color"

/-- The name that is a letter, with its dash. -/
def shortName? (choice : Choice) : Option String :=
  choice.letter?.map fun c => String.ofList ['-', c]

/-- All names of an option. -/
def names (choice : Choice) : List String :=
  choice.shortName?.toList ++ [choice.longName]

/-- The names of an option as messages show them. -/
def label (choice : Choice) : String :=
  String.intercalate "/" choice.names

/-- Whether an option comes with a value. -/
def takesValue : Choice → Bool
  | .config => true
  | _ => false

def ofLetter?
    (c : Char) : Option Choice :=
  all.find? fun choice => choice.letter? = some c

/-- The option of a name that is given in full. -/
def ofName?
    (name : String) : Option Choice :=
  all.find? fun choice => choice.names.contains name

/-- The options whose long names begin with a text. -/
def abbreviatedBy
    (beginning : List Char) : List Choice :=
  all.filter fun choice => beginning.isPrefixOf choice.longName.toList

end Choice

end Tablewright.CommandLine
