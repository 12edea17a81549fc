import Tablewright.Naming.Inflection
import Tablewright.Naming.Overrides
import Tablewright.Value.Text

/-!
# The forms of a table name

Everything that is derived from the name of a table: its spelling in camel case and Pascal case,
its singular and plural, and these in snake case. Overrides prevail over the pluralizer.
-/

namespace Tablewright.Naming

/-- The rule that gives a name its singular and plural. -/
inductive Pluralizer where
  /-- By the last letter of the name. -/
  | suffix
  /-- By the lexicon, for the last segment of the name. -/
  | inflect
  deriving Repr, DecidableEq, Inhabited

namespace Pluralizer

/-- The name of the rule in settings. -/
def name : Pluralizer → String
  | .suffix => "suffix"
  | .inflect => "inflect"

/-- The rule of a name. -/
def ofName?
    (name : String) : Option Pluralizer :=
  if name = "suffix" then some .suffix
  else if name = "inflect" then some .inflect
  else none

end Pluralizer

/-- Why a name has no forms. -/
inductive NamingError where
  | notText (kind : String)
  | emptyName
  | unknownPluralizer (given : Value)
  | unknownStyle (given : Value)
  /-- The last segment holds nothing but blanks, so there is no word to inflect. -/
  | noWord
  deriving Repr

/-- The wording of an error. -/
def NamingError.message : NamingError → String
  | .notText kind => "Expected string, got " ++ kind
  | .emptyName => "Table name must be a non-empty string"
  | .unknownPluralizer given => "Unknown pluralizer: " ++ given.quote
  | .unknownStyle given => "Unknown method style: " ++ given.quote
  | .noWord => "list index out of range"

/-- The name of a table with the forms derived from it. -/
structure NameForms where
  raw : String
  camel : String
  pascal : String
  singular : String
  plural : String
  snakeSingular : String
  snakePlural : String
  deriving Repr, DecidableEq, Inhabited

/-- The singular and plural that the rule gives a name. -/
def Pluralizer.inflection
    (pluralizer : Pluralizer)
    (raw : String) : Except NamingError Inflection :=
  match pluralizer with
  | .suffix => .ok (suffixInflection (pascal raw))
  | .inflect =>
      match lexiconInflection? raw with
      | some forms => .ok forms
      | none => .error .noWord

/-- The forms of a name whose singular and plural are known. -/
def NameForms.ofInflection
    (raw : String)
    (forms : Inflection) : NameForms where
  raw := raw
  camel := Naming.camel raw
  pascal := Naming.pascal raw
  singular := forms.singular
  plural := forms.plural
  snakeSingular := snake forms.singular
  snakePlural := snake forms.plural

/-- The forms of the name of a table. -/
def NameForms.derive
    (raw : String)
    (overrides : Overrides)
    (pluralizer : Pluralizer) : Except NamingError NameForms :=
  if raw = "" then .error .emptyName
  else do
    let inflection ← pluralizer.inflection raw
    return NameForms.ofInflection raw ((overrides.find? raw).getD inflection)

def textOf : Value → Except NamingError String
  | .text s => .ok s
  | value => .error (.notText value.kindName)

/-- The rule that a value names. -/
def Pluralizer.ofValue : Value → Except NamingError Pluralizer
  | .text name =>
      match Pluralizer.ofName? name with
      | some pluralizer => .ok pluralizer
      | none => .error (.unknownPluralizer (.text name))
  | value => .error (.unknownPluralizer value)

/-- The forms of a name given as a value, by a rule given as a value. -/
def NameForms.ofValues
    (raw : Value)
    (overrides : Overrides)
    (pluralizer : Value) : Except NamingError NameForms :=
  if !raw.isTruthy then .error .emptyName
  else do
    let name ← textOf raw
    let rule ← Pluralizer.ofValue pluralizer
    NameForms.derive name overrides rule

end Tablewright.Naming
