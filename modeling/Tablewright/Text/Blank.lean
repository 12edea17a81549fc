import Tablewright.Text.Span

/-!
# Blank characters

The white space of every script, with the separators of files, groups, records and units.
-/

namespace Tablewright.Text

/-- Code points that count as white space. -/
def blankSpans : List Span :=
  [⟨0x9, 0xD⟩, ⟨0x1C, 0x20⟩, ⟨0x85, 0x85⟩, ⟨0xA0, 0xA0⟩, ⟨0x1680, 0x1680⟩, ⟨0x2000, 0x200A⟩,
    ⟨0x2028, 0x2029⟩, ⟨0x202F, 0x202F⟩, ⟨0x205F, 0x205F⟩, ⟨0x3000, 0x3000⟩]

/-- Whether the character is white space. -/
def isBlank
    (c : Char) : Bool :=
  Span.anyContains blankSpans c

/-- The characters without the white space at either end. -/
def stripChars
    (chars : List Char) : List Char :=
  ((chars.dropWhile isBlank).reverse.dropWhile isBlank).reverse

/-- The text without the white space at either end. -/
def strip
    (text : String) : String :=
  String.ofList (stripChars text.toList)

end Tablewright.Text
