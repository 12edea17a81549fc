import Tablewright.Schema.Tree

/-!
# Tables of a schema tree

A table is a property with a plain name, directly inside an object type that is the type of a
property named `Tables`. Whether a node is a table is seen by looking up from it. Tables are listed
in the order of a walk from left to right in which a node comes before what is below it.
-/

namespace Tablewright.Schema

/-- The name of the properties that hold tables. -/
def tablesName : String := "Tables"

/-- The kinds of the nodes above a node, the nearest first. -/
abbrev Ancestors := List NodeKind

/-- The property whose type an object type is, by the nodes above it. -/
def ownerOf? : Ancestors → Option NodeKind
  | .ascription :: rest => ownerOf? rest
  | .property name? :: _ => some (.property name?)
  | _ => none

/-- Whether a node above is a property that holds tables. -/
def holdsTables : Option NodeKind → Bool
  | some (.property (some name)) => name == tablesName
  | _ => false

/-- The name of the table that a node is, by the nodes above it. -/
def tableName?
    (ancestors : Ancestors) : NodeKind → Option String
  | .property (some name) =>
      match ancestors with
      | .objectType :: rest => if holdsTables (ownerOf? rest) then some name else none
      | _ => none
  | _ => none

mutual

/-- The tables of a tree below other nodes. -/
def tablesBelow
    (ancestors : Ancestors) : Tree → List String
  | .node kind children =>
      (tableName? ancestors kind).toList ++ tablesOfAll (kind :: ancestors) children

/-- The tables of trees below other nodes. -/
def tablesOfAll
    (ancestors : Ancestors) : List Tree → List String
  | [] => []
  | tree :: rest => tablesBelow ancestors tree ++ tablesOfAll ancestors rest

end

def Tree.tables
    (tree : Tree) : List String :=
  tablesBelow [] tree

end Tablewright.Schema
