import Tablewright.Value.Text

/-!
# Binding arguments to parameters

A function of the generated language has parameters that are filled by position or by name, and
others that are filled by name only. A call binds its arguments to them, or fails with the first
thing that does not fit: a name given twice or not known, then too many positions, then parameters
that are left open.
-/

namespace Tablewright.Calls

/-- A parameter with the value it has when it is left open, if it may be. -/
structure Slot where
  name : String
  default? : Option Value
  deriving Repr

/-- What can be passed to a function besides the object it belongs to. -/
structure Callee where
  /-- The name of the function in messages. -/
  title : String
  positional : List Slot
  namedOnly : List Slot
  /-- Whether names that are not known are accepted and kept. -/
  acceptsOthers : Bool
  deriving Repr

/-- The arguments of a call. -/
structure Arguments where
  positional : List Value
  named : List (String × Value)
  deriving Repr

/-- The values of the parameters of a call. -/
structure Bound where
  /-- One value for each positional parameter and then for each parameter filled by name only. -/
  values : List (String × Value)
  /-- The arguments whose names are not known, in order. -/
  others : List (String × Value)
  deriving Repr

/-- Why arguments do not fit. -/
inductive BindingError where
  | unexpectedName (callee name : String)
  | repeatedName (callee name : String)
  | tooMany (callee : String) (least most given namedOnlyGiven : Nat)
  | missing (callee : String) (namedOnly : Bool) (names : List String)
  deriving Repr, DecidableEq

def pluralEnding
    (n : Nat) : String :=
  if n = 1 then "" else "s"

/-- Names in quotes, listed with `and` before the last. -/
def listNames
    (names : List String) : String :=
  let quoted := names.map fun name => "'" ++ name ++ "'"
  match quoted with
  | [] => ""
  | [one] => one
  | [one, two] => one ++ " and " ++ two
  | _ =>
      String.intercalate ", " quoted.dropLast ++ ", and " ++ (quoted.getLast?.getD "")

/-- The wording of an error. -/
def BindingError.message : BindingError → String
  | .unexpectedName callee name =>
      callee ++ "() got an unexpected keyword argument '" ++ name ++ "'"
  | .repeatedName callee name =>
      callee ++ "() got multiple values for argument '" ++ name ++ "'"
  | .tooMany callee least most given namedOnlyGiven =>
      let range :=
        if least = most then toString most else "from " ++ toString least ++ " to " ++ toString most
      let ending := if least = most then pluralEnding most else "s"
      let byName :=
        if namedOnlyGiven = 0 then ""
        else
          " positional argument" ++ pluralEnding given ++ " (and " ++ toString namedOnlyGiven ++
            " keyword-only argument" ++ pluralEnding namedOnlyGiven ++ ")"
      callee ++ "() takes " ++ range ++ " positional argument" ++ ending ++ " but " ++
        toString given ++ byName ++
        (if given = 1 ∧ namedOnlyGiven = 0 then " was given" else " were given")
  | .missing callee namedOnly names =>
      callee ++ "() missing " ++ toString names.length ++ " required " ++
        (if namedOnly then "keyword-only" else "positional") ++ " argument" ++
        pluralEnding names.length ++ ": " ++ listNames names

/-- The parameters filled so far, by name. -/
abbrev Filled := List (String × Value)

/-- Fills parameters by the named arguments of a call, in their order. -/
def fillNamed
    (callee : Callee)
    (names : List String) :
    Filled → List (String × Value) → List (String × Value) →
      Except BindingError (Filled × List (String × Value))
  | filled, others, [] => .ok (filled, others)
  | filled, others, (name, value) :: rest =>
      if names.contains name then
        if (filled.lookup name).isSome then .error (.repeatedName callee.title name)
        else fillNamed callee names (filled ++ [(name, value)]) others rest
      else if callee.acceptsOthers then
        fillNamed callee names filled (others ++ [(name, value)]) rest
      else
        .error (.unexpectedName callee.title name)

/-- The parameters that are neither filled nor may be left open. -/
def openSlots
    (slots : List Slot)
    (filled : Filled) : List String :=
  (slots.filter fun slot => (filled.lookup slot.name).isNone && slot.default?.isNone).map
    Slot.name

/-- The value of a parameter: the one it was filled with, else its own. -/
def Slot.value
    (slot : Slot)
    (filled : Filled) : Value :=
  match filled.lookup slot.name with
  | some value => value
  | none => slot.default?.getD .null

/-- Binds the arguments of a call. The object that the function belongs to counts as the first
positional argument in messages. -/
def bind
    (callee : Callee)
    (arguments : Arguments) : Except BindingError Bound := do
  let positional := callee.positional
  let byPosition := (positional.map Slot.name).zip arguments.positional
  let names := "self" :: (positional ++ callee.namedOnly).map Slot.name
  let (filled, others) ←
    fillNamed callee names (("self", .null) :: byPosition) [] arguments.named
  if positional.length < arguments.positional.length then
    let required := (positional.filter fun slot => slot.default?.isNone).length
    let namedOnlyGiven :=
      (callee.namedOnly.filter fun slot => (filled.lookup slot.name).isSome).length
    throw (.tooMany callee.title (required + 1) (positional.length + 1)
      (arguments.positional.length + 1) namedOnlyGiven)
  let missing := openSlots positional filled
  if !missing.isEmpty then
    throw (.missing callee.title false missing)
  let missingNamed := openSlots callee.namedOnly filled
  if !missingNamed.isEmpty then
    throw (.missing callee.title true missingNamed)
  return ⟨(positional ++ callee.namedOnly).map fun slot => (slot.name, slot.value filled), others⟩

/-- A call whose arguments are bound has no more positions than its callee. -/
theorem length_le_of_bind
    {callee : Callee}
    {arguments : Arguments}
    {bound : Bound}
    (fits : bind callee arguments = .ok bound) :
    arguments.positional.length ≤ callee.positional.length := by
  apply Nat.le_of_not_lt
  intro tooMany
  simp only [bind, tooMany, if_true] at fits
  cases filling : fillNamed callee _ _ _ arguments.named with
  | error reason =>
      rw [filling] at fits
      cases fits
  | ok filled =>
      rw [filling] at fits
      cases fits

/-- The value of a parameter of a call. -/
def Bound.get
    (bound : Bound)
    (name : String) : Value :=
  (bound.values.lookup name).getD .null

end Tablewright.Calls
