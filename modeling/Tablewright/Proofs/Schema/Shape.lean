import Tablewright.Proofs.Schema.Layout
import Tablewright.Schema.Tables

/-!
# Shapes of types

The types that the schema of a database is made of: alternatives of basic types and literals, and
object types, some of which are for no key at all. Each shape has pieces that it is printed from and
a tree that it should be read as.
-/

namespace Tablewright.Schema

/-- Types that have a word of their own. -/
inductive BasicType where
  | any
  | bigint
  | boolean
  | never
  | null
  | number
  | object
  | string
  | symbol
  | undefined
  | unknown
  | void
  deriving Repr, DecidableEq

/-- The word for the type. -/
def BasicType.word : BasicType → Identifier
  | .any => ⟨"any", by decide⟩
  | .bigint => ⟨"bigint", by decide⟩
  | .boolean => ⟨"boolean", by decide⟩
  | .never => ⟨"never", by decide⟩
  | .null => ⟨"null", by decide⟩
  | .number => ⟨"number", by decide⟩
  | .object => ⟨"object", by decide⟩
  | .string => ⟨"string", by decide⟩
  | .symbol => ⟨"symbol", by decide⟩
  | .undefined => ⟨"undefined", by decide⟩
  | .unknown => ⟨"unknown", by decide⟩
  | .void => ⟨"void", by decide⟩

/-- One of several alternatives. -/
inductive Alternative where
  | basic (type : BasicType)
  | quoted (literal : Literal)

namespace Alternative

def symbol : Alternative → Symbol
  | .basic type => .word type.word
  | .quoted literal => .literal literal

def tree : Alternative → Tree
  | .basic _ => .group [.leaf]
  | .quoted _ => .leaf

end Alternative

/-- What a member of an object type is called, and whether it may be left out. -/
structure Key where
  name : Identifier
  optional : Bool

/-- A type. -/
inductive Shape where
  | alternatives
      (first : Alternative)
      (others : List Alternative)
  | emptyTuple
  /-- An object type whose one member is for every key of the type of no value. -/
  | noKeys
  | object (members : List (Key × Shape))

/-- The pieces of what is between a name and its type. -/
def Key.mark
    (key : Key) : List Piece :=
  if key.optional then [.plain (.sign .questionMark), .plain (.sign .colon)]
  else [.plain (.sign .colon)]

/-- The pieces of the alternatives after the first. -/
def piecesOfOthers : List Alternative → List Piece
  | [] => []
  | other :: others => .plain (.sign .bar) :: .plain other.symbol :: piecesOfOthers others

/-- The pieces after the last member of an object type. -/
def closingPieces : List Piece :=
  [.afterMembers, .plain (.sign .closeBrace)]

/-- The pieces of an object type for none of all keys, after its first brace. -/
def piecesOfNoKeys : List Piece :=
  let never : Symbol := .word BasicType.never.word
  [.plain (.sign .openBracket), .plain (.word ⟨"_", by decide⟩), .plain (.word ⟨"in", by decide⟩),
    .plain never, .plain (.sign .closeBracket), .plain (.sign .colon), .plain never]

mutual

/-- The pieces that a type is printed from. -/
def Shape.pieces : Shape → List Piece
  | .alternatives first others => .plain first.symbol :: piecesOfOthers others
  | .emptyTuple => [.plain (.sign .openBracket), .plain (.sign .closeBracket)]
  | .noKeys => .plain (.sign .openBrace) :: (piecesOfNoKeys ++ closingPieces)
  | .object [] => [.plain (.sign .openBrace), .plain (.sign .closeBrace)]
  | .object ((key, shape) :: members) =>
      .plain (.sign .openBrace) :: .plain (.word key.name) ::
        (key.mark ++ (shape.pieces ++ (piecesOfMembers members ++ closingPieces)))

/-- The pieces of the members after the first. -/
def piecesOfMembers : List (Key × Shape) → List Piece
  | [] => []
  | (key, shape) :: members =>
      .nextMember (.word key.name) :: (key.mark ++ (shape.pieces ++ piecesOfMembers members))

end

mutual

/-- The tree that a type should be read as. -/
def Shape.tree : Shape → Tree
  | .alternatives first [] => first.tree
  | .alternatives first others => .group (first.tree :: others.map Alternative.tree)
  | .emptyTuple => .group []
  | .noKeys => .objectType [.group [(Alternative.basic .never).tree, (Alternative.basic .never).tree]]
  | .object members => .objectType (treesOfMembers members)

/-- The trees of members. -/
def treesOfMembers : List (Key × Shape) → List Tree
  | [] => []
  | (key, shape) :: members =>
      .property (some key.name.spelling) (some shape.tree) :: treesOfMembers members

end

mutual

/-- The tables of a type by the rule from above: the flag says that the type is that of a property
that holds tables. -/
def Shape.tables
    (areTables : Bool) : Shape → List String
  | .object members => tablesOfMembers areTables members
  | _ => []

/-- The tables among members and in their types. -/
def tablesOfMembers
    (areTables : Bool) : List (Key × Shape) → List String
  | [] => []
  | (key, shape) :: members =>
      (if areTables then [key.name.spelling] else []) ++
        (shape.tables (key.name.spelling == tablesName) ++ tablesOfMembers areTables members)

end

/-- What holds of a type whenever it holds of the types of its members, holds of every type. -/
@[elab_as_elim]
theorem Shape.members_induction
    {holds : Shape → Prop}
    (alternatives : ∀ first others, holds (.alternatives first others))
    (emptyTuple : holds .emptyTuple)
    (noKeys : holds .noKeys)
    (object :
      ∀ members : List (Key × Shape),
        (∀ member ∈ members, holds member.2) →
        holds (.object members)) :
    ∀ shape, holds shape
  | .alternatives first others => alternatives first others
  | .emptyTuple => emptyTuple
  | .noKeys => noKeys
  | .object members =>
      object members fun member _ =>
        Shape.members_induction alternatives emptyTuple noKeys object member.2
decreasing_by
  have smaller := List.sizeOf_lt_of_mem ‹member ∈ members›
  obtain ⟨key, shape⟩ := member
  simp only [Prod.mk.sizeOf_spec] at smaller
  simp only [Shape.object.sizeOf_spec]
  omega

end Tablewright.Schema
