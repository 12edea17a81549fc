import Tablewright.Naming.Plural

/-!
# Overrides

Tables whose singular and plural are given outright. The table of overrides keeps the order in
which tables were first named; naming one again changes its forms in place.
-/

namespace Tablewright.Naming

/-- Forms given outright, by the name of the table. -/
abbrev Overrides := List (String × Inflection)

namespace Overrides

/-- The tables whose forms are always given. -/
def builtIn : Overrides :=
  [("user_type", ⟨"UserType", "UserTypes"⟩)]

/-- The forms given for a table. -/
def find?
    (overrides : Overrides)
    (table : String) : Option Inflection :=
  List.lookup table overrides

/-- Gives the forms of a table: in place if it has some, else at the end. -/
def set
    (table : String)
    (forms : Inflection) : Overrides → Overrides
  | [] => [(table, forms)]
  | (other, old) :: rest =>
      if other = table then (other, forms) :: rest else (other, old) :: set table forms rest

/-- The overrides with others added, which prevail. -/
def extend
    (overrides extra : Overrides) : Overrides :=
  extra.foldl (fun merged (table, forms) => merged.set table forms) overrides

/-- The built-in overrides with others added. -/
def withBuiltIn
    (extra : Overrides) : Overrides :=
  builtIn.extend extra

end Overrides

end Tablewright.Naming
