import Tablewright.Access.Operation
import Tablewright.Methods.Block
import Tablewright.Text.Normal

/-!
# Generated classes

A generated class has the primitives and, for each table, methods that pass their arguments on to a
primitive. It knows its methods by the normal forms of their names, and of several methods with one
name the last counts. A call that does not fit leaves no trace.
-/

namespace Tablewright.Access

open Methods (Primitive Forwarder MethodBlock)

/-- A generated class. -/
structure GeneratedClass where
  name : String
  methods : List Forwarder
  deriving Repr

/-- The definition as a class knows it. -/
def asKnown
    (forwarder : Forwarder) : Forwarder :=
  { forwarder with name := Text.normalForm forwarder.name }

/-- The class that the blocks of tables make. -/
def GeneratedClass.ofBlocks
    (name : String)
    (blocks : List MethodBlock) : GeneratedClass :=
  ⟨Text.normalForm name, (blocks.flatMap MethodBlock.forwarders).map asKnown⟩

/-- What a name in a class stands for. -/
inductive Target where
  | primitive (primitive : Primitive)
  | method (forwarder : Forwarder)
  deriving Repr

/-- Why a call fails. -/
inductive CallError where
  | unknownMethod (className method : String)
  | arguments (error : Calls.BindingError)
  | access (error : AccessError)
  deriving Repr

/-- The wording of a failure. -/
def CallError.message : CallError → String
  | .unknownMethod className method =>
      "'" ++ className ++ "' object has no attribute '" ++ method ++ "'"
  | .arguments error => error.message
  | .access error => error.message

/-- A call of a method. -/
structure Call where
  method : String
  arguments : Calls.Arguments
  responses : List Response
  deriving Repr

/-- What a call came to. -/
structure Outcome where
  result : Except CallError Value
  queries : List Query
  logs : List LogRecord

namespace Outcome

/-- A call that failed before anything was done. -/
def refused
    (error : CallError) : Outcome :=
  ⟨.error error, [], []⟩

/-- What is seen of work that was done: its result, and the queries and the log of its session. -/
def ofWork
    (ended : Except AccessError Value × Session) : Outcome :=
  ⟨ended.1.mapError .access, ended.2.queries, ended.2.logs⟩

end Outcome

/-- Runs a primitive for a table. -/
def runPrimitive
    (primitive : Primitive)
    (table : Value)
    (bound : Calls.Bound)
    (responses : List Response) : Outcome :=
  .ofWork ((perform primitive table bound).run (.start responses))

/-- The parameters after the table, as calls see them. -/
def slotsOf
    (primitive : Primitive) : List Calls.Slot × List Calls.Slot :=
  (primitive.signature.positional.map Methods.Parameter.slot,
    primitive.signature.namedOnly.map Methods.Parameter.slot)

/-- What a method passes on to its primitive: its table and the values of its parameters. -/
def passedOn
    (forwarder : Forwarder)
    (bound : Calls.Bound) : Calls.Arguments where
  positional :=
    .text forwarder.table ::
      forwarder.primitive.signature.positional.map fun parameter => bound.get parameter.name
  named :=
    forwarder.primitive.signature.namedOnly.map fun parameter =>
      (parameter.name, bound.get parameter.name)

namespace GeneratedClass

/-- The name of a method in messages. -/
def titleOf
    (generated : GeneratedClass)
    (method : String) : String :=
  generated.name ++ "." ++ method

/-- What a method can be given. -/
def methodCallee
    (generated : GeneratedClass)
    (forwarder : Forwarder) : Calls.Callee :=
  let (positional, namedOnly) := slotsOf forwarder.primitive
  ⟨generated.titleOf forwarder.name, positional, namedOnly, false⟩

/-- What a primitive can be given: a table, and then as a method. -/
def primitiveCallee
    (generated : GeneratedClass)
    (primitive : Primitive) : Calls.Callee :=
  let (positional, namedOnly) := slotsOf primitive
  ⟨generated.titleOf primitive.name, ⟨"table_name", none⟩ :: positional, namedOnly, false⟩

/-- What a name stands for. -/
def find?
    (generated : GeneratedClass)
    (name : String) : Option Target :=
  match generated.methods.reverse.find? fun forwarder => forwarder.name = name with
  | some forwarder => some (.method forwarder)
  | none =>
      (Primitive.all.find? fun primitive => primitive.name = name).map Target.primitive

def callPrimitive
    (generated : GeneratedClass)
    (primitive : Primitive)
    (arguments : Calls.Arguments)
    (responses : List Response) : Outcome :=
  match Calls.bind (generated.primitiveCallee primitive) arguments with
  | .error error => .refused (.arguments error)
  | .ok bound => runPrimitive primitive (bound.get "table_name") bound responses

/-- What a method passes on has one position more than what it was given at most, and no method has
more than two. -/
private theorem passedOn_decreases
    {generated : GeneratedClass}
    {forwarder : Forwarder}
    {arguments : Calls.Arguments}
    {bound : Calls.Bound}
    (fits : Calls.bind (generated.methodCallee forwarder) arguments = .ok bound) :
    3 - (passedOn forwarder bound).positional.length < 3 - arguments.positional.length := by
  have most : forwarder.primitive.signature.positional.length ≤ 2 := by
    cases forwarder.primitive <;> decide
  have given := Calls.length_le_of_bind fits
  simp only [methodCallee, slotsOf, List.length_map] at given
  simp only [passedOn, List.length_cons, List.length_map]
  omega

/-- Calls what a name stands for. A method calls its primitive by name, so another method that has
the name of the primitive would answer; it is given one argument more, so that ends. -/
def callNamed
    (generated : GeneratedClass)
    (name : String)
    (arguments : Calls.Arguments)
    (responses : List Response) : Outcome :=
  match generated.find? name with
  | none => .refused (.unknownMethod generated.name name)
  | some (.primitive primitive) => generated.callPrimitive primitive arguments responses
  | some (.method forwarder) =>
      match _ : Calls.bind (generated.methodCallee forwarder) arguments with
      | .error error => .refused (.arguments error)
      | .ok bound =>
          generated.callNamed forwarder.primitive.name (passedOn forwarder bound) responses
termination_by 3 - arguments.positional.length
decreasing_by exact passedOn_decreases (by assumption)

/-- What a call of a method comes to. -/
def call
    (generated : GeneratedClass)
    (request : Call) : Outcome :=
  generated.callNamed request.method request.arguments request.responses

end GeneratedClass

end Tablewright.Access
