import Tablewright.Text.IdentifierSpans

/-!
# Identifiers

The words that a generated module may use as names: an identifier begins with a letter or the low
line and goes on with letters, digits, marks and connecting signs of any script. The reserved words
of the generated language are identifiers too, and have to be told apart.
-/

namespace Tablewright.Text

/-- Whether an identifier may begin with the character. -/
def isIdentifierStart
    (c : Char) : Bool :=
  Span.anyContains identifierStartSpans c

/-- Whether an identifier may go on with the character. -/
def isIdentifierContinue
    (c : Char) : Bool :=
  Span.anyContains identifierContinueSpans c

/-- Whether the characters spell an identifier, reserved or not. -/
def isIdentifierChars : List Char → Bool
  | [] => false
  | first :: rest => isIdentifierStart first && rest.all isIdentifierContinue

/-- Whether the text is an identifier, reserved or not. -/
def isIdentifier
    (text : String) : Bool :=
  isIdentifierChars text.toList

/-- The words of the generated language that no definition may take as its name. -/
def reservedWords : List String :=
  ["False", "None", "True", "and", "as", "assert", "async", "await", "break", "class",
    "continue", "def", "del", "elif", "else", "except", "finally", "for", "from", "global",
    "if", "import", "in", "is", "lambda", "nonlocal", "not", "or", "pass", "raise", "return",
    "try", "while", "with", "yield"]

/-- Whether the text may name a definition: an identifier that is not reserved. -/
def isDefinable
    (text : String) : Bool :=
  isIdentifier text && !reservedWords.contains text

end Tablewright.Text
