import Tablewright.Naming.Casing

/-!
# Singular and plural by the last letter

A name that ends in a single `s` is taken for a plural, unless the ending is one that singulars
have as well. Every other name is a singular, of which an `s` makes the plural.
-/

namespace Tablewright.Naming

/-- The two forms of a name that methods are named by. -/
structure Inflection where
  singular : String
  plural : String
  deriving Repr, DecidableEq, Inhabited

/-- Whether the reversed name ends like a plural: in `s`, but not in `ss`, `us` or `is`. -/
def endsPluralReversed : List Char → Bool
  | 's' :: 's' :: _ => false
  | 's' :: 'u' :: _ => false
  | 's' :: 'i' :: _ => false
  | 's' :: _ => true
  | _ => false

/-- Whether the name ends like a plural. -/
def endsPlural
    (name : List Char) : Bool :=
  endsPluralReversed name.reverse

/-- The singular and the plural of a name by its ending. -/
def suffixForms
    (name : List Char) : List Char × List Char :=
  if endsPlural name then (name.dropLast, name) else (name, name ++ ['s'])

/-- The singular and the plural of a name by its ending. -/
def suffixInflection
    (name : String) : Inflection :=
  let (singular, plural) := suffixForms name.toList
  ⟨String.ofList singular, String.ofList plural⟩

end Tablewright.Naming
