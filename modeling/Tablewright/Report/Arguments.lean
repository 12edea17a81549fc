import Tablewright.Calls.Binding
import Tablewright.Report
import Tablewright.Value.Arithmetic

/-!
# Reports from arguments

A report can be made from the arguments of a call. All kinds take a message, a context and
suggestions. The general kind takes a code besides; the others take the place of the failure, have
codes of their own, and ignore arguments that they do not know.
-/

namespace Tablewright

/-- Why no report can be made from arguments. -/
inductive ReportFault where
  | arguments (error : Calls.BindingError)
  | misfit (fault : Misfit)
  /-- The place cannot be entered into a context of this kind. -/
  | fixedContext (kind : String)
  deriving Repr

/-- The wording of a fault. -/
def ReportFault.message : ReportFault → String
  | .arguments error => error.message
  | .misfit fault => fault.message
  | .fixedContext kind => "'" ++ kind ++ "' object does not support item assignment"

namespace ReportKind

/-- A parameter that may be left out. -/
def optional
    (name : String) : Calls.Slot :=
  ⟨name, some .null⟩

/-- What can be passed to make a report of the kind. -/
def callee
    (kind : ReportKind) : Calls.Callee where
  title := kind.name ++ ".__init__"
  positional :=
    ⟨"message", none⟩ ::
      match kind.place? with
      | some place => [optional place]
      | none => [optional "context", optional "suggestions", optional "error_code"]
  namedOnly := []
  acceptsOthers := kind.place?.isSome

end ReportKind

namespace Report

/-- The entries of a context; anything that counts as false is an empty one. -/
def contextOf
    (context : Value) : Except ReportFault (List (String × Value)) :=
  if !context.isTruthy then .ok []
  else
    match context with
    | .map entries => .ok (entries.map fun (key, value) => (key.display, value))
    | other => .error (.misfit (.noAttribute other.kindName "items"))

/-- The context with the place of the failure entered, unless that counts as false. -/
def enterPlace
    (name : String)
    (place context : Value) : Except ReportFault Value :=
  if !place.isTruthy then .ok context
  else
    match context with
    | .map entries => .ok (.map (Value.setEntry (.text name) place entries))
    | .list _ => .error (.misfit (.badIndex "list" "str"))
    | other => .error (.fixedContext other.kindName)

/-- The texts of suggestions; anything that counts as false is an empty list. -/
def suggestionsOf
    (suggestions : Value) : Except ReportFault (List String) :=
  if !suggestions.isTruthy then .ok []
  else
    match suggestions.items? with
    | .ok items => .ok (items.map Value.display)
    | .error fault => .error (.misfit fault)

/-- A report of a kind whose failures have places. -/
def ofPlaced
    (kind : ReportKind)
    (place : String)
    (bound : Calls.Bound) : Except ReportFault Report := do
  let given := (bound.others.lookup "context").getD (.map [])
  let context ← contextOf (← enterPlace place (bound.get place) given)
  let suggestions ← suggestionsOf ((bound.others.lookup "suggestions").getD .null)
  return {
    kind := kind
    message := (bound.get "message").display
    context := context
    suggestions := if suggestions.isEmpty then kind.suggestions else suggestions
    code := kind.code? }

/-- A report of the general kind. -/
def ofGeneral
    (bound : Calls.Bound) : Except ReportFault Report := do
  let context ← contextOf (bound.get "context")
  let suggestions ← suggestionsOf (bound.get "suggestions")
  return {
    kind := .general
    message := (bound.get "message").display
    context := context
    suggestions := suggestions
    code :=
      match bound.get "error_code" with
      | .null => none
      | code => some code.display }

/-- The report that arguments make. -/
def ofArguments
    (kind : ReportKind)
    (arguments : Calls.Arguments) : Except ReportFault Report := do
  let bound ← (Calls.bind kind.callee arguments).mapError ReportFault.arguments
  match kind.place? with
  | some place => ofPlaced kind place bound
  | none => ofGeneral bound

end Report

end Tablewright
