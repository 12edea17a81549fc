import Tablewright.Text.NormalSpans

/-!
# Normal forms of identifiers

Identifiers that look alike can be spelled in several ways. The generated language takes them in one
normal form only: every character is written with what it stands for, marks are put in order, and
then characters are composed again.
-/

namespace Tablewright.Text

/-- What the character is written with, if the row has it. -/
def Row.image?
    (row : Row)
    (c : Char) : Option (List Char) :=
  if row.first ≤ c.toNat then
    row.images[c.toNat - row.first]?.map fun image => image.map Char.ofNat
  else
    none

/-- The composed syllables of Hangul: for each leading consonant and each vowel there is one without
an ending, and one for each trailing consonant. -/
def syllables : Span := ⟨0xAC00, 0xD7A3⟩

/-- The consonants that begin a syllable. -/
def leadingConsonants : Span := ⟨0x1100, 0x1112⟩

/-- The vowels of syllables. -/
def vowels : Span := ⟨0x1161, 0x1175⟩

/-- The consonants that end a syllable. -/
def trailingConsonants : Span := ⟨0x11A8, 0x11C2⟩

/-- The number of vowels. -/
def vowelCount : Nat := 21

/-- The number of syllables that begin with the same consonant and vowel. -/
def endingCount : Nat := 28

/-- The parts of the syllable with this number. -/
def partsOfSyllable
    (index : Nat) : List Char :=
  let leading := index / endingCount / vowelCount
  let vowel := index / endingCount % vowelCount
  let ending := index % endingCount
  [Char.ofNat (leadingConsonants.first + leading), Char.ofNat (vowels.first + vowel)] ++
    if ending = 0 then [] else [Char.ofNat (trailingConsonants.first + ending - 1)]

/-- What a character is written with. -/
def decompose
    (c : Char) : List Char :=
  if syllables.contains c then partsOfSyllable (c.toNat - syllables.first)
  else
    match decompositionShifts.findSome? (·.image? c) with
    | some image => [image]
    | none => (decompositionRows.findSome? (·.image? c)).getD [c]

/-- The class of a mark, or nothing for a character that marks follow. -/
def orderOf
    (c : Char) : Nat :=
  match combiningClasses.find? (·.span.contains c) with
  | some marks => marks.order
  | none => 0

/-- Puts a character before marks that are in order, behind those of a lower class. -/
def insertMark
    (c : Char) : List Char → List Char
  | [] => [c]
  | other :: rest =>
      if 0 < orderOf other ∧ orderOf other < orderOf c then other :: insertMark c rest
      else c :: other :: rest

/-- Characters with their marks in order. -/
def orderMarks
    (chars : List Char) : List Char :=
  chars.foldr insertMark []

/-- The syllable of two parts, if they make one: of a consonant and a vowel, or of a syllable without
an ending and a consonant. -/
def composeSyllable?
    (first second : Char) : Option Char :=
  if leadingConsonants.contains first && vowels.contains second then
    let leading := first.toNat - leadingConsonants.first
    let vowel := second.toNat - vowels.first
    some (Char.ofNat (syllables.first + (leading * vowelCount + vowel) * endingCount))
  else if syllables.contains first && (first.toNat - syllables.first) % endingCount = 0 &&
      trailingConsonants.contains second then
    some (Char.ofNat (first.toNat + (second.toNat - trailingConsonants.first) + 1))
  else
    none

/-- The character that two stand for, if there is one. -/
def compose?
    (first second : Char) : Option Char :=
  match composeSyllable? first second with
  | some syllable => some syllable
  | none =>
      (compositions.find? fun composition =>
        composition.first = first.toNat ∧ composition.second = second.toNat).map
        fun composition => Char.ofNat composition.result

/-- Composes a character with those that follow it. The marks that could not be composed with it
come after it, the last of them of class `last`; behind a mark of its own class a mark stays. -/
def composeFrom
    (starter : Char)
    (marks : List Char)
    (last : Nat) : List Char → List Char
  | [] => starter :: marks
  | c :: rest =>
      let composed? := if marks.isEmpty || last < orderOf c then compose? starter c else none
      match composed? with
      | some composed => composeFrom composed marks last rest
      | none =>
          if orderOf c = 0 then starter :: marks ++ composeFrom c [] 0 rest
          else composeFrom starter (marks ++ [c]) (orderOf c) rest

/-- Characters that are composed where they can be. -/
def composeChars : List Char → List Char
  | [] => []
  | first :: rest => composeFrom first [] 0 rest

/-- The normal form of an identifier. -/
def normalForm
    (name : String) : String :=
  if name.toList.all fun c => c.toNat < 0x80 then name
  else String.ofList (composeChars (orderMarks (name.toList.flatMap decompose)))

end Tablewright.Text
