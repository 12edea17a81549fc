import Tablewright.Access.Query

/-!
# Filters

A filter is a mapping from columns to conditions. A condition is nothing, which asks for absence, a
collection, which asks for membership, a mapping of operators to operands, or any other value,
which asks for equality. Operators are applied in a fixed order, and unknown ones are passed over.
-/

namespace Tablewright.Access

/-- The operators that a condition can have, in the order in which they are applied. -/
def filterOperators : List (String × Comparison) :=
  [("gt", .greater), ("gte", .greaterOrEqual), ("lt", .less), ("lte", .lessOrEqual),
    ("neq", .notEqual), ("like", .like), ("ilike", .likeAnyCase), ("is", .same)]

/-- The operand that asks for absence. -/
def absent : Value := .text "null"

/-- The operand as it is sent: absence is what nothing is compared with by sameness. -/
def sentOperand : Comparison → Value → Value
  | .same, .null => absent
  | _, operand => operand

/-- The part for an operator, if the condition has the operator. -/
def operatorPart?
    (column : Value)
    (conditions : List (Value × Value))
    (operator : String × Comparison) : Option QueryPart :=
  (Value.field? operator.1 conditions).map fun operand =>
    .compare operator.2 column (sentOperand operator.2 operand)

def columnParts
    (column condition : Value) : List QueryPart :=
  match condition with
  | .null => [.compare .same column absent]
  | .list items => [.compare .member column (.list items)]
  | .set items => [.compare .member column (.list items)]
  | .pair first second => [.compare .member column (.list [first, second])]
  | .map conditions => filterOperators.filterMap (operatorPart? column conditions)
  | other => [.compare .equal column other]

/-- The parts for the columns of a filter, in its order. -/
def filterParts
    (columns : List (Value × Value)) : List QueryPart :=
  columns.flatMap fun (column, condition) => columnParts column condition

/-- The parts for a filter given as a value. What counts as false filters nothing. -/
def filterDraft
    (filters : Value) : Draft :=
  if !filters.isTruthy then .ofParts []
  else
    match filters with
    | .map columns => .ofParts (filterParts columns)
    | other => ⟨[], some (.noAttribute other.kindName "items")⟩

end Tablewright.Access
