import Tablewright.Methods.Primitive
import Tablewright.Naming.Forms
import Tablewright.Text.Identifier

/-!
# Names of methods

The method of a table for a primitive is named by a verb and a form of the name of the table: the
plural for operations on several rows, else the singular. There are two styles, each with verbs and
forms of its own.
-/

namespace Tablewright.Methods

open Naming (NameForms NamingError)

/-- The style of method names. -/
inductive MethodStyle where
  | camel
  | snake
  deriving Repr, DecidableEq, Inhabited

namespace MethodStyle

/-- The name of the style in settings. -/
def name : MethodStyle → String
  | .camel => "camel"
  | .snake => "snake"

def ofName?
    (name : String) : Option MethodStyle :=
  if name = "camel" then some .camel
  else if name = "snake" then some .snake
  else none

/-- The style that a value names. -/
def ofValue : Value → Except NamingError MethodStyle
  | .text name =>
      match ofName? name with
      | some style => .ok style
      | none => .error (.unknownStyle (.text name))
  | value => .error (.unknownStyle value)

def singular : MethodStyle → NameForms → String
  | .camel, forms => forms.singular
  | .snake, forms => forms.snakeSingular

def plural : MethodStyle → NameForms → String
  | .camel, forms => forms.plural
  | .snake, forms => forms.snakePlural

end MethodStyle

namespace Primitive

/-- Whether the operation is about several rows. -/
def isPlural : Primitive → Bool
  | .getAll => true
  | .createMany => true
  | .updateMany => true
  | _ => false

/-- What the name of the method begins with. -/
def verb : MethodStyle → Primitive → String
  | .camel, .getAll => "get"
  | .camel, .getById => "get"
  | .camel, .create => "create"
  | .camel, .createMany => "createMany"
  | .camel, .update => "update"
  | .camel, .updateMany => "updateMany"
  | .camel, .delete => "delete"
  | .snake, .getAll => "get_"
  | .snake, .getById => "get_"
  | .snake, .create => "create_"
  | .snake, .createMany => "create_many_"
  | .snake, .update => "update_"
  | .snake, .updateMany => "update_many_"
  | .snake, .delete => "delete_"

/-- The form of the table name that the operation is about. -/
def form
    (style : MethodStyle)
    (forms : NameForms)
    (primitive : Primitive) : String :=
  if primitive.isPlural then style.plural forms else style.singular forms

end Primitive

/-- The name of the method of a table for a primitive. -/
def methodName
    (style : MethodStyle)
    (forms : NameForms)
    (primitive : Primitive) : String :=
  primitive.verb style ++ primitive.form style forms

/-- The names of the methods of a table, in the order of the primitives. -/
def methodNames
    (style : MethodStyle)
    (forms : NameForms) : List String :=
  Primitive.all.map (methodName style forms)

/-- Why a method name is refused. -/
inductive NameFault where
  /-- The name cannot be defined. -/
  | invalid (name : String)
  /-- The name is that of a primitive. -/
  | shadows (name : String)
  deriving Repr, DecidableEq

/-- What is wrong with a method name, if anything is. -/
def nameFault?
    (name : String) : Option NameFault :=
  if !Text.isDefinable name then some (.invalid name)
  else if (Primitive.all.map Primitive.name).contains name then some (.shadows name)
  else none

/-- The first fault of the names of a table. -/
def firstFault?
    (names : List String) : Option NameFault :=
  names.findSome? nameFault?

end Tablewright.Methods
