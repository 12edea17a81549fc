import Tablewright.Value.Arithmetic

/-!
# Queries

A query goes to one table and consists of parts that are added one by one. Working out the next
part can fail; what was added until then stays, and such a query is not executed.
-/

namespace Tablewright.Access

/-- How a column is compared with an operand. -/
inductive Comparison where
  | equal
  | greater
  | greaterOrEqual
  | less
  | lessOrEqual
  | notEqual
  | like
  | likeAnyCase
  | same
  | member
  deriving Repr, DecidableEq

/-- The name of a comparison in queries. -/
def Comparison.name : Comparison → String
  | .equal => "eq"
  | .greater => "gt"
  | .greaterOrEqual => "gte"
  | .less => "lt"
  | .lessOrEqual => "lte"
  | .notEqual => "neq"
  | .like => "like"
  | .likeAnyCase => "ilike"
  | .same => "is_"
  | .member => "in_"

/-- A part of a query. -/
inductive QueryPart where
  | select (columns : Value)
  | compare (comparison : Comparison) (column operand : Value)
  | range (first last : Value)
  | single
  | insert (rows : Value)
  | update (changes : Value)
  | delete
  deriving Repr

namespace QueryPart

def name : QueryPart → String
  | .select _ => "select"
  | .compare comparison _ _ => comparison.name
  | .range _ _ => "range"
  | .single => "single"
  | .insert _ => "insert"
  | .update _ => "update"
  | .delete => "delete"

/-- What the part is given. -/
def arguments : QueryPart → List Value
  | .select columns => [columns]
  | .compare _ column operand => [column, operand]
  | .range first last => [first, last]
  | .single => []
  | .insert rows => [rows]
  | .update changes => [changes]
  | .delete => []

end QueryPart

/-- The parts of a query, up to where working one out fails if that happens. -/
structure Draft where
  parts : List QueryPart
  fault? : Option Misfit
  deriving Repr

namespace Draft

/-- A draft that does not fail. -/
def ofParts
    (parts : List QueryPart) : Draft :=
  ⟨parts, none⟩

/-- Goes on with more parts unless the draft has failed. -/
def andThen
    (draft more : Draft) : Draft :=
  match draft.fault? with
  | some _ => draft
  | none => ⟨draft.parts ++ more.parts, more.fault?⟩

/-- The draft of parts that may fail to be worked out. -/
def ofExcept
    (parts : Except Misfit (List QueryPart)) : Draft :=
  match parts with
  | .ok parts => ⟨parts, none⟩
  | .error fault => ⟨[], some fault⟩

end Draft

/-- A query that was begun. -/
structure Query where
  table : Value
  parts : List QueryPart
  /-- Whether it was sent. -/
  executed : Bool
  deriving Repr

end Tablewright.Access
