import Tablewright.Value.Text

/-!
# Working with values of unknown kind

Requests compute with whatever the caller passed. An operation that does not fit the kinds of its
operands fails with a cause, and each cause has its wording.
-/

namespace Tablewright

/-- The operators that requests compute with. -/
inductive Operator where
  | add
  | sub
  | mul
  deriving Repr, DecidableEq

def Operator.sign : Operator → String
  | .add => "+"
  | .sub => "-"
  | .mul => "*"

/-- Why an operation on values fails. -/
inductive Misfit where
  | operands (operator : Operator) (left right : String)
  | repeatBy (kind : String)
  | concatenate (left right : String)
  | notIterable (kind : String)
  | notSubscriptable (kind : String)
  | badIndex (collection kind : String)
  | noAttribute (kind member : String)
  | missingKey (key : Value)
  | outOfRange (collection : String)
  | tooLarge
  deriving Repr

/-- The wording of a failure. -/
def Misfit.message : Misfit → String
  | .operands operator left right =>
      "unsupported operand type(s) for " ++ operator.sign ++ ": '" ++ left ++ "' and '" ++
        right ++ "'"
  | .repeatBy kind => "can't multiply sequence by non-int of type '" ++ kind ++ "'"
  | .concatenate left right =>
      "can only concatenate " ++ left ++ " (not \"" ++ right ++ "\") to " ++ left
  | .notIterable kind => "'" ++ kind ++ "' object is not iterable"
  | .notSubscriptable kind => "'" ++ kind ++ "' object is not subscriptable"
  | .badIndex "str" kind => "string indices must be integers, not '" ++ kind ++ "'"
  | .badIndex collection kind =>
      collection ++ " indices must be integers or slices, not " ++ kind
  | .noAttribute kind member =>
      "'" ++ kind ++ "' object has no attribute '" ++ member ++ "'"
  | .missingKey key => key.quote
  | .outOfRange "str" => "string index out of range"
  | .outOfRange collection => collection ++ " index out of range"
  | .tooLarge => "int too large to convert to float"

namespace Value

/-- A value as a number: whole or floating. -/
inductive Number where
  | whole (n : Int)
  | floating (x : Float)

/-- The number that a value is, truth values counting as one and zero. -/
def number? : Value → Option Number
  | .bool b => some (.whole (if b then 1 else 0))
  | .int n => some (.whole n)
  | .float x => some (.floating x)
  | _ => none

/-- The floating-point number nearest to a number, unless it is out of reach. -/
def Number.toFloat : Number → Except Misfit Float
  | .floating x => .ok x
  | .whole n =>
      let x := Decimal.ofInt n
      if x.isInf then .error .tooLarge else .ok x

/-- Combines two numbers, as whole numbers if both are. -/
def combine
    (onWhole : Int → Int → Int)
    (onFloat : Float → Float → Float) : Number → Number → Except Misfit Value
  | .whole m, .whole n => .ok (.int (onWhole m n))
  | a, b => do
      let x ← a.toFloat
      let y ← b.toFloat
      return .float (onFloat x y)

/-- Whether a value is a sequence that can be repeated and joined. -/
def isSequence : Value → Bool
  | .text _ => true
  | .bytes _ => true
  | .pair _ _ => true
  | .list _ => true
  | _ => false

/-- A text or list repeated. -/
def replicate?
    (count : Int) : Value → Option Value
  | .text s => some (.text (String.ofList (List.replicate count.toNat s.toList).flatten))
  | .list items => some (.list (List.replicate count.toNat items).flatten)
  | _ => none

/-- The whole number that counts repetitions. -/
def count? : Value → Option Int
  | .bool b => some (if b then 1 else 0)
  | .int n => some n
  | _ => none

/-- The product of numbers, or the repetition of a sequence. -/
def mul
    (a b : Value) : Except Misfit Value :=
  match a.number?, b.number? with
  | some m, some n => combine (· * ·) (· * ·) m n
  | _, _ =>
      if a.isSequence then
        match b.count?.bind (replicate? · a) with
        | some product => .ok product
        | none => .error (.repeatBy b.kindName)
      else if b.isSequence then
        match a.count?.bind (replicate? · b) with
        | some product => .ok product
        | none => .error (.repeatBy a.kindName)
      else
        .error (.operands .mul a.kindName b.kindName)

/-- The sum of numbers, or two texts or lists joined. -/
def add
    (a b : Value) : Except Misfit Value :=
  match a, b with
  | .text s, .text t => .ok (.text (s ++ t))
  | .list items, .list more => .ok (.list (items ++ more))
  | .text _, _ => .error (.concatenate "str" b.kindName)
  | .list _, _ => .error (.concatenate "list" b.kindName)
  | _, _ =>
      match a.number?, b.number? with
      | some m, some n => combine (· + ·) (· + ·) m n
      | _, _ => .error (.operands .add a.kindName b.kindName)

/-- The difference of numbers. -/
def sub
    (a b : Value) : Except Misfit Value :=
  match a.number?, b.number? with
  | some m, some n => combine (· - ·) (· - ·) m n
  | _, _ => .error (.operands .sub a.kindName b.kindName)

/-- The values that going through a value yields: items, characters or keys. -/
def items? : Value → Except Misfit (List Value)
  | .list items => .ok items
  | .set items => .ok items
  | .pair first second => .ok [first, second]
  | .text s => .ok (s.toList.map fun c => .text (String.singleton c))
  | .bytes content => .ok (content.map fun byte => .int byte.toNat)
  | .map entries => .ok (entries.map Prod.fst)
  | value => .error (.notIterable value.kindName)

/-- The part of a value under a text key. -/
def atKey
    (key : String) : Value → Except Misfit Value
  | .map entries =>
      match field? key entries with
      | some value => .ok value
      | none => .error (.missingKey (.text key))
  | .text _ => .error (.badIndex "str" "str")
  | .list _ => .error (.badIndex "list" "str")
  | .pair _ _ => .error (.badIndex "tuple" "str")
  | value => .error (.notSubscriptable value.kindName)

/-- The first part of a value. -/
def head : Value → Except Misfit Value
  | .list (first :: _) => .ok first
  | .list [] => .error (.outOfRange "list")
  | .text s =>
      match s.toList with
      | c :: _ => .ok (.text (String.singleton c))
      | [] => .error (.outOfRange "str")
  | .pair first _ => .ok first
  | .map entries =>
      match lookup? (.int 0) entries with
      | some value => .ok value
      | none => .error (.missingKey (.int 0))
  | value => .error (.notSubscriptable value.kindName)

end Value

end Tablewright
