import Tablewright.Methods.Names
import Tablewright.Text.Quoted

/-!
# Method blocks

The methods of a table as source code: a blank line, a comment with the name of the table, and
seven definitions, each of which calls its primitive with the table and its own arguments.
-/

namespace Tablewright.Methods

open Naming (NameForms)

/-- A definition that passes its arguments on to a primitive for one table. -/
structure Forwarder where
  name : String
  table : String
  primitive : Primitive
  deriving Repr, DecidableEq

namespace Forwarder

/-- The line or lines that declare the method. -/
def headerLines
    (forwarder : Forwarder) : List String :=
  let signature := forwarder.primitive.signature
  let named := if signature.namedOnly.isEmpty then [] else
    "*" :: signature.namedOnly.map Parameter.render
  let parameters := "self" :: signature.positional.map Parameter.render ++ named
  if forwarder.primitive.isSpread then
    ["    def " ++ forwarder.name ++ "("] ++
      (parameters.map fun parameter => "        " ++ parameter ++ ",") ++
      ["    ) -> " ++ signature.result ++ ":"]
  else
    ["    def " ++ forwarder.name ++ "(" ++ String.intercalate ", " parameters ++ ") -> " ++
      signature.result ++ ":"]

/-- The line that calls the primitive. -/
def callLine
    (forwarder : Forwarder) : String :=
  let signature := forwarder.primitive.signature
  let arguments :=
    Text.quoted forwarder.table :: signature.positional.map Parameter.name ++
      signature.namedOnly.map fun parameter => parameter.name ++ "=" ++ parameter.name
  "        return self." ++ forwarder.primitive.name ++ "(" ++
    String.intercalate ", " arguments ++ ")"

/-- The lines of the definition. -/
def lines
    (forwarder : Forwarder) : List String :=
  forwarder.headerLines ++ [forwarder.callLine]

end Forwarder

/-- The methods of a table, with the forms of its name and the source code. -/
structure MethodBlock where
  table : String
  forms : NameForms
  style : MethodStyle
  deriving Repr, DecidableEq

namespace MethodBlock

/-- The names of the methods, in the order of the primitives. -/
def names
    (block : MethodBlock) : List String :=
  methodNames block.style block.forms

/-- The definitions, in the order of the primitives. -/
def forwarders
    (block : MethodBlock) : List Forwarder :=
  Primitive.all.map fun primitive =>
    ⟨methodName block.style block.forms primitive, block.table, primitive⟩

/-- The comment that precedes the definitions. -/
def commentLine
    (block : MethodBlock) : String :=
  "    # " ++ block.forms.pascal

/-- The lines of the source code, the first of which is empty. -/
def lines
    (block : MethodBlock) : List String :=
  ["", block.commentLine] ++
    List.intercalate [""] (block.forwarders.map Forwarder.lines)

/-- The source code, without a line end after the last line. -/
def code
    (block : MethodBlock) : String :=
  String.intercalate "\n" block.lines

/-- The source code of blocks, one after another. -/
def joinCode
    (blocks : List MethodBlock) : String :=
  String.intercalate "\n" (blocks.map code)

end MethodBlock

end Tablewright.Methods
