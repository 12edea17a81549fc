import Tablewright.Calls.Binding

/-!
# Primitives

The seven generic operations on the rows of a table. A generated class has each of them for any
table, with the name of the table as the first argument, and once more for every table by itself.
The parameters after the table are the same in both.
-/

namespace Tablewright.Methods

/-- An operation on the rows of a table. -/
inductive Primitive where
  | getAll
  | getById
  | create
  | createMany
  | update
  | updateMany
  | delete
  deriving Repr, DecidableEq, Inhabited

/-- The value of a parameter that a call leaves open. -/
inductive Default where
  | none
  | zero
  | text (s : String)
  deriving Repr, DecidableEq

/-- A parameter of a method, with its type as it is written. -/
structure Parameter where
  name : String
  type : String
  default? : Option Default
  deriving Repr, DecidableEq

/-- The parameters of a method and the type of its result. -/
structure Signature where
  positional : List Parameter
  namedOnly : List Parameter
  result : String
  deriving Repr, DecidableEq

/-- A default as it is written. -/
def Default.render : Default → String
  | .none => "None"
  | .zero => "0"
  | .text s => "\"" ++ s ++ "\""

def Default.value : Default → Value
  | .none => .null
  | .zero => .int 0
  | .text s => .text s

/-- A parameter as it is declared. -/
def Parameter.render
    (parameter : Parameter) : String :=
  parameter.name ++ ": " ++ parameter.type ++
    match parameter.default? with
    | some default => " = " ++ default.render
    | none => ""

/-- A parameter as calls see it. -/
def Parameter.slot
    (parameter : Parameter) : Calls.Slot :=
  ⟨parameter.name, parameter.default?.map Default.value⟩

namespace Primitive

/-- The primitives, in the order in which methods are generated. -/
def all : List Primitive :=
  [.getAll, .getById, .create, .createMany, .update, .updateMany, .delete]

/-- The name of the generic method. -/
def name : Primitive → String
  | .getAll => "get_all"
  | .getById => "get_by_id"
  | .create => "create"
  | .createMany => "create_many"
  | .update => "update"
  | .updateMany => "update_many"
  | .delete => "delete"

/-- The parameter for the columns to be read. -/
def selectParameter : Parameter :=
  ⟨"select", "str", some (.text "*")⟩

/-- The parameter for the column that identifies a row. -/
def idFieldParameter : Parameter :=
  ⟨"id_field", "str", some (.text "id")⟩

/-- The parameter for the row in question. -/
def recordIdParameter : Parameter :=
  ⟨"record_id", "RecordId", none⟩

/-- The parameters after the table, and the result. -/
def signature : Primitive → Signature
  | .getAll =>
      ⟨[],
        [selectParameter, idFieldParameter, ⟨"limit", "Optional[int]", some .none⟩,
          ⟨"page", "int", some .zero⟩, ⟨"filters", "Optional[Dict[str, Any]]", some .none⟩],
        "List[Record]"⟩
  | .getById => ⟨[recordIdParameter], [selectParameter, idFieldParameter], "Optional[Record]"⟩
  | .create => ⟨[⟨"data", "Record", none⟩], [], "Record"⟩
  | .createMany => ⟨[⟨"data", "Sequence[Record]", none⟩], [], "List[Record]"⟩
  | .update => ⟨[recordIdParameter, ⟨"data", "Record", none⟩], [idFieldParameter], "Record"⟩
  | .updateMany =>
      ⟨[⟨"updates", "Sequence[RecordUpdate]", none⟩], [idFieldParameter], "List[Record]"⟩
  | .delete => ⟨[recordIdParameter], [idFieldParameter], "None"⟩

/-- Whether the parameters are declared on lines of their own. -/
def isSpread : Primitive → Bool
  | .getAll => true
  | _ => false

end Primitive

end Tablewright.Methods
