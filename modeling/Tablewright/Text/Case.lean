import Tablewright.Text.CaseSpans

/-!
# Small and capital letters

Full case conversion of texts. One rule looks beyond a single character: a capital sigma that ends
a word takes the final form of the small letter.
-/

namespace Tablewright.Text

/-- The capital form of one character. -/
def upperChar
    (c : Char) : List Char :=
  mapCase upperExpansions upperShifts c

/-- The small form of one character, wherever it stands. -/
def lowerChar
    (c : Char) : List Char :=
  mapCase lowerExpansions lowerShifts c

/-- Whether the character is a letter with case that stops a search for case. -/
def isCased
    (c : Char) : Bool :=
  Span.anyContains casedSpans c

/-- Whether a search for case passes over the character. -/
def isCaseIgnorable
    (c : Char) : Bool :=
  Span.anyContains caseIgnorableSpans c

/-- Whether the first character that a search for case does not pass over is a cased letter. -/
def startsCased : List Char → Bool
  | [] => false
  | c :: rest => if isCaseIgnorable c then startsCased rest else isCased c

def capitalSigma : Char := 'Σ'

/-- The small form of `c` after a text that ends cased or not, before the text `rest`. -/
def lowerAt
    (afterCased : Bool)
    (c : Char)
    (rest : List Char) : List Char :=
  if c = capitalSigma then
    [if afterCased && !startsCased rest then 'ς' else 'σ']
  else
    lowerChar c

/-- Small forms from left to right; the flag says whether a cased letter was the last one that a
search for case met. -/
def lowerFrom
    (afterCased : Bool) : List Char → List Char
  | [] => []
  | c :: rest =>
      lowerAt afterCased c rest ++
        lowerFrom (if isCaseIgnorable c then afterCased else isCased c) rest

/-- The characters in small letters. -/
def lowerChars
    (chars : List Char) : List Char :=
  lowerFrom false chars

/-- The characters in capital letters. -/
def upperChars
    (chars : List Char) : List Char :=
  chars.flatMap upperChar

/-- The text in small letters. -/
def lower
    (text : String) : String :=
  String.ofList (lowerChars text.toList)

/-- The text in capital letters. -/
def upper
    (text : String) : String :=
  String.ofList (upperChars text.toList)

end Tablewright.Text
