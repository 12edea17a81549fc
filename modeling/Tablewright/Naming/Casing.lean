import Tablewright.Text.Case

/-!
# Styles of compound names

A table name is a list of segments with low lines between them. Camel case and Pascal case join
the segments and mark each beginning by a capital letter. Snake case goes back: it puts a low line
before each word that a capital letter begins, and makes all letters small.
-/

namespace Tablewright.Naming

/-- The first segment of a name and the segments after it, without the low lines between them. -/
def segmentsOf : List Char → List Char × List (List Char)
  | [] => ([], [])
  | c :: rest =>
      let (first, others) := segmentsOf rest
      if c = '_' then ([], first :: others) else (c :: first, others)

/-- A segment with its first character in capital form and the others in small form. -/
def capitalize : List Char → List Char
  | [] => []
  | c :: rest => Text.upperChar c ++ Text.lowerChars rest

/-- The name in camel case: the first segment small, the others capitalized. -/
def camelChars
    (name : List Char) : List Char :=
  let (first, others) := segmentsOf name
  Text.lowerChars first ++ others.flatMap capitalize

/-- The name in Pascal case: every segment capitalized. -/
def pascalChars
    (name : List Char) : List Char :=
  let (first, others) := segmentsOf name
  capitalize first ++ others.flatMap capitalize

/-- Whether the character is a capital letter that can begin a word. -/
def isCapital
    (c : Char) : Bool :=
  decide ('A' ≤ c) && decide (c ≤ 'Z')

/-- Whether the character is a small letter that can go on a word. -/
def isSmall
    (c : Char) : Bool :=
  decide ('a' ≤ c) && decide (c ≤ 'z')

/-- Whether the character is a small letter or a digit. -/
def isSmallOrDigit
    (c : Char) : Bool :=
  isSmall c || (decide ('0' ≤ c) && decide (c ≤ '9'))

/-- Whether the characters begin with a capital letter and a small one. -/
def startsWord : List Char → Bool
  | u :: l :: _ => isCapital u && isSmall l
  | _ => false

/-- Whether the characters begin with a capital letter. -/
def startsCapital : List Char → Bool
  | u :: _ => isCapital u
  | _ => false

/-- Whether the characters begin with a low line and a capital letter. -/
def startsLowLineCapital : List Char → Bool
  | low :: u :: _ => low == '_' && isCapital u
  | _ => false

/-- Puts a low line between a character and a word that follows it. The flag says that the small
letters of a word are being passed, to the last of which no such line is added. -/
def separateWords
    (insideWord : Bool) : List Char → List Char
  | [] => []
  | c :: rest =>
      if insideWord && isSmall c then
        c :: separateWords true rest
      else if c ≠ '\n' && startsWord rest then
        match rest with
        | [] => [c]
        | u :: more => c :: '_' :: u :: separateWords true more
      else
        c :: separateWords false rest

/-- Takes one of two low lines away before a capital letter. -/
def mergeLowLines : List Char → List Char
  | [] => []
  | c :: rest =>
      if c == '_' && startsLowLineCapital rest then mergeLowLines rest
      else c :: mergeLowLines rest

/-- Puts a low line between a small letter or digit and a capital letter. -/
def separateCapitals : List Char → List Char
  | [] => []
  | c :: rest =>
      if isSmallOrDigit c && startsCapital rest then c :: '_' :: separateCapitals rest
      else c :: separateCapitals rest

/-- The name in snake case. -/
def snakeChars
    (name : List Char) : List Char :=
  Text.lowerChars (separateCapitals (mergeLowLines (separateWords false name)))

/-- The name in camel case. -/
def camel
    (name : String) : String :=
  String.ofList (camelChars name.toList)

/-- The name in Pascal case. -/
def pascal
    (name : String) : String :=
  String.ofList (pascalChars name.toList)

/-- The name in snake case. -/
def snake
    (name : String) : String :=
  String.ofList (snakeChars name.toList)

end Tablewright.Naming
