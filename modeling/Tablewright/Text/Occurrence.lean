/-!
# Occurrences of a text in a text

Occurrences are counted from left to right without overlap, and the first one can be replaced.
-/

namespace Tablewright.Text

/-- The parts before and after the first occurrence. -/
def splitAtFirst?
    (needle : List Char) : List Char → Option (List Char × List Char)
  | [] =>
      match needle with
      | [] => some ([], [])
      | _ :: _ => none
  | c :: rest =>
      match needle.isPrefixOf? (c :: rest) with
      | some after => some ([], after)
      | none => (splitAtFirst? needle rest).map fun (before, after) => (c :: before, after)

/-- The number of occurrences that start after the next `skip` characters, no two overlapping. -/
def countFrom
    (needle : List Char) : Nat → List Char → Nat
  | _, [] => 0
  | skip + 1, _ :: rest => countFrom needle skip rest
  | 0, c :: rest =>
      if needle.isPrefixOf (c :: rest) then
        countFrom needle (needle.length - 1) rest + 1
      else
        countFrom needle 0 rest

/-- The number of occurrences, no two overlapping; the empty text occurs at each position. -/
def countOccurrences
    (needle text : String) : Nat :=
  match needle.toList with
  | [] => text.toList.length + 1
  | first :: rest => countFrom (first :: rest) 0 text.toList

/-- The text with the first occurrence of `needle` replaced, or unchanged if there is none. -/
def replaceFirst
    (needle replacement text : String) : String :=
  match splitAtFirst? needle.toList text.toList with
  | some (before, after) => String.ofList (before ++ replacement.toList ++ after)
  | none => text

/-- Whether the text holds an occurrence of `needle`. -/
def occursIn
    (needle text : String) : Bool :=
  (splitAtFirst? needle.toList text.toList).isSome

end Tablewright.Text
