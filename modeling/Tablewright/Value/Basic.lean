import Tablewright.Decimal.Binary

/-!
# Plain values

The values that settings files, request arguments and responses are made of. A mapping keeps the
order in which its keys first came, and holds each key once.
-/

namespace Tablewright

/-- A day of the calendar. -/
structure Day where
  year : Nat
  month : Nat
  day : Nat
  deriving Repr, DecidableEq

/-- A time on a day, with the distance of its zone from universal time in minutes if it has one. -/
structure Moment where
  day : Day
  hour : Nat
  minute : Nat
  second : Nat
  microsecond : Nat
  zone : Option Int
  deriving Repr, DecidableEq

/-- The collections that can hold themselves. -/
inductive CollectionKind where
  | list
  | map
  | set
  deriving Repr, DecidableEq

/-- A plain value. -/
inductive Value where
  | null
  | bool (b : Bool)
  | int (n : Int)
  | float (x : Float)
  | text (s : String)
  | bytes (content : List UInt8)
  | date (day : Day)
  | moment (time : Moment)
  | pair (first second : Value)
  | list (items : List Value)
  | map (entries : List (Value × Value))
  | set (items : List Value)
  /-- A collection that is being read where it is named inside itself. -/
  | enclosing (kind : CollectionKind)
  deriving Repr, Inhabited

namespace Value

def kindName : Value → String
  | .null => "NoneType"
  | .bool _ => "bool"
  | .int _ => "int"
  | .float _ => "float"
  | .text _ => "str"
  | .bytes _ => "bytes"
  | .date _ => "date"
  | .moment _ => "datetime"
  | .pair _ _ => "tuple"
  | .list _ => "list"
  | .map _ => "dict"
  | .set _ => "set"
  | .enclosing .list => "list"
  | .enclosing .map => "dict"
  | .enclosing .set => "set"

/-- The whole number that a finite floating-point number equals, if it is whole. -/
def wholeOfFloat?
    (x : Float) : Option Int :=
  match Decimal.Binary.ofFloat x with
  | .finite negative mantissa exponent _ =>
      let magnitude? : Option Nat :=
        if 0 ≤ exponent then some (mantissa * Nat.pow 2 exponent.toNat)
        else
          let unit := Nat.pow 2 (-exponent).toNat
          if mantissa % unit = 0 then some (mantissa / unit) else none
      magnitude?.map fun magnitude => if negative then -(magnitude : Int) else magnitude
  | .infinite _ => none
  | .notANumber => none

/-- The whole number that a value equals, if it equals one. -/
def whole? : Value → Option Int
  | .bool b => some (if b then 1 else 0)
  | .int n => some n
  | .float x => wholeOfFloat? x
  | _ => none

/-- Whether two values are the same key of a mapping. Numbers are compared by their value. -/
def sameKey : Value → Value → Bool
  | .null, .null => true
  | .text s, .text t => s == t
  | .bytes a, .bytes b => a == b
  | .date a, .date b => a == b
  | .moment a, .moment b => a == b
  | .pair a b, .pair c d => sameKey a c && sameKey b d
  | a, b =>
      match a.whole?, b.whole? with
      | some m, some n => m == n
      | none, none =>
          match a, b with
          | .float x, .float y => x == y
          | _, _ => false
      | _, _ => false

/-- Whether a value counts as true. -/
def isTruthy : Value → Bool
  | .null => false
  | .bool b => b
  | .int n => n != 0
  | .float x => !(x == 0)
  | .text s => s != ""
  | .bytes content => !content.isEmpty
  | .list items => !items.isEmpty
  | .map entries => !entries.isEmpty
  | .set items => !items.isEmpty
  | .date _ => true
  | .moment _ => true
  | .pair _ _ => true
  | .enclosing _ => true

/-- The entries with the key set: in place if the key is there, else at the end. -/
def setEntry
    (key value : Value) : List (Value × Value) → List (Value × Value)
  | [] => [(key, value)]
  | (other, old) :: rest =>
      if sameKey other key then (other, value) :: rest
      else (other, old) :: setEntry key value rest

/-- The mapping of a list of entries, of which the last one for a key counts. -/
def mapOfList
    (entries : List (Value × Value)) : Value :=
  .map (entries.foldl (fun kept (key, value) => setEntry key value kept) [])

def lookup?
    (key : Value)
    (entries : List (Value × Value)) : Option Value :=
  (entries.find? fun (other, _) => sameKey other key).map Prod.snd

/-- The value of a text key. -/
def field?
    (name : String)
    (entries : List (Value × Value)) : Option Value :=
  lookup? (.text name) entries

end Value

end Tablewright
