import Tablewright.Document.Mark

/-!
# Tokens of documents

The units of a document: indicators, properties and scalars, and the beginnings and ends of
collections that indentation alone shows.
-/

namespace Tablewright.Document

/-- A tag as it is written: the part that stands for the beginning of an address, if there is one,
and the rest. -/
structure TagText where
  handle : Option String
  suffix : String
  deriving Repr, DecidableEq

/-- A directive, which stands before a document. -/
inductive Directive where
  | version (major minor : Nat)
  | handle (name address : String)
  | other (name : String)
  deriving Repr, DecidableEq

/-- What a token is. -/
inductive TokenKind where
  | directive (directive : Directive)
  | documentStart
  | documentEnd
  | streamEnd
  | blockSequenceStart
  | blockMappingStart
  | blockEnd
  | flowSequenceStart
  | flowSequenceEnd
  | flowMappingStart
  | flowMappingEnd
  | blockEntry
  | flowEntry
  | key
  | value
  | alias (name : String)
  | anchor (name : String)
  | tag (text : TagText)
  /-- A scalar; `plain` says that it stands without quotes and on no lines of its own. -/
  | scalar (text : String) (plain : Bool)
  deriving Repr, DecidableEq

/-- The name of a token in problems. -/
def TokenKind.name : TokenKind → String
  | .directive _ => "<directive>"
  | .documentStart => "<document start>"
  | .documentEnd => "<document end>"
  | .streamEnd => "<stream end>"
  | .blockSequenceStart => "<block sequence start>"
  | .blockMappingStart => "<block mapping start>"
  | .blockEnd => "<block end>"
  | .flowSequenceStart => "["
  | .flowSequenceEnd => "]"
  | .flowMappingStart => "\x7b"
  | .flowMappingEnd => "\x7d"
  | .blockEntry => "-"
  | .flowEntry => ","
  | .key => "?"
  | .value => ":"
  | .alias _ => "<alias>"
  | .anchor _ => "<anchor>"
  | .tag _ => "<tag>"
  | .scalar _ _ => "<scalar>"

/-- A token with the places where it starts and ends. -/
structure Token where
  kind : TokenKind
  start : Mark
  stop : Mark
  deriving Repr, DecidableEq

end Tablewright.Document
