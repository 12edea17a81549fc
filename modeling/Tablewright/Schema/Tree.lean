/-!
# Trees of a schema

Of the tree of a schema only what bears on tables is told apart: properties with their names, object
types, and the ascriptions that give properties their types.
-/

namespace Tablewright.Schema

/-- What a node is. -/
inductive NodeKind where
  /-- A property, with its name if that is a plain one. -/
  | property (name? : Option String)
  | objectType
  /-- What gives a property or another name its type. -/
  | ascription
  | other
  deriving Repr, DecidableEq

/-- A node and the nodes below it, from left to right. -/
inductive Tree where
  | node (kind : NodeKind) (children : List Tree)
  deriving Repr

namespace Tree

def kind : Tree → NodeKind
  | .node kind _ => kind

/-- The nodes below the node. -/
def children : Tree → List Tree
  | .node _ children => children

/-- A node that stands only for what is below it. -/
def group
    (children : List Tree) : Tree :=
  .node .other children

/-- A node with nothing below it that matters. -/
def leaf : Tree := group []

/-- A property with its type, if that is given. -/
def property
    (name? : Option String)
    (type? : Option Tree) : Tree :=
  .node (.property name?) (type?.map fun type => .node .ascription [type]).toList

def objectType
    (members : List Tree) : Tree :=
  .node .objectType members

end Tree

end Tablewright.Schema
