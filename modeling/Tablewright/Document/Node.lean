import Tablewright.Document.Tag

/-!
# Nodes

A document is a tree of scalars, sequences and mappings, each with a tag and the place where it
starts. A name for a node that is complete stands for the node itself.
-/

namespace Tablewright.Document

/-- A part of a document. -/
inductive Node where
  | scalar (tag : Tag) (text : String) (mark : Mark)
  | sequence (tag : Tag) (items : List Node) (mark : Mark)
  | mapping (tag : Tag) (entries : List (Node × Node)) (mark : Mark)
  /-- A collection that is named inside itself. -/
  | enclosing (tag : Tag) (shape : Shape) (mark : Mark)
  deriving Repr

instance : Inhabited Node :=
  ⟨.scalar .null "" Mark.start⟩

namespace Node

/-- The kind of values that a node stands for. -/
def tag : Node → Tag
  | .scalar tag _ _ => tag
  | .sequence tag _ _ => tag
  | .mapping tag _ _ => tag
  | .enclosing tag _ _ => tag

/-- The kind of a node. -/
def shape : Node → Shape
  | .scalar _ _ _ => .scalar
  | .sequence _ _ _ => .sequence
  | .mapping _ _ _ => .mapping
  | .enclosing _ shape _ => shape

/-- The place where a node starts. -/
def mark : Node → Mark
  | .scalar _ _ mark => mark
  | .sequence _ _ mark => mark
  | .mapping _ _ mark => mark
  | .enclosing _ _ mark => mark

/-- An empty plain scalar. -/
def empty
    (mark : Mark) : Node :=
  .scalar (Tag.ofPlain "") "" mark

end Node

end Tablewright.Document
