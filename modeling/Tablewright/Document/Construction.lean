import Tablewright.Document.Base64
import Tablewright.Document.Composition

/-!
# Values of nodes

The tag of a node says what value it stands for. Of several faults the one counts that lies least
deep in the tree, and among those the first: collections are filled only after everything around
them has been seen. A mapping takes the entries of the mappings that are merged into it before its
own, so that its own prevail.
-/

namespace Tablewright.Document

/-- What came of a node: a value, or a fault and the depth at which it lies. -/
abbrev Outcome (α : Type) := Except (Nat × Fault) α

namespace Outcome

/-- A problem of a node at a depth. -/
def problem
    {α : Type}
    (depth : Nat)
    (activity : Option (Activity × Option Mark))
    (problem : Problem)
    (mark : Mark) : Outcome α :=
  .error (depth, .located activity problem mark)

/-- Two outcomes together. Of two faults the less deep one counts, and the first of equals. -/
def both
    {α β : Type}
    (a : Outcome α)
    (b : Outcome β) : Outcome (α × β) :=
  match a, b with
  | .ok x, .ok y => .ok (x, y)
  | .ok _, .error fault => .error fault
  | .error fault, .ok _ => .error fault
  | .error (m, fault), .error (n, other) => .error (if n < m then (n, other) else (m, fault))

/-- Outcomes together. -/
def all
    {α : Type} : List (Outcome α) → Outcome (List α)
  | [] => .ok []
  | outcome :: rest => (both outcome (all rest)).map fun (value, values) => value :: values

end Outcome

namespace Node

/-! ## Scalars -/

/-- The text of a scalar. A mapping has the text of the value whose key is an equals sign. -/
def textAt
    (depth : Nat) : Nat → Node → Outcome String
  | 0, node => .problem depth none (.otherShape .scalar node.shape) node.mark
  | fuel + 1, node =>
      match node with
      | .scalar _ text _ => .ok text
      | .mapping _ entries mark =>
          match entries.find? fun (key, _) => key.tag = .value with
          | some (_, value) => textAt depth fuel value
          | none => .problem depth none (.otherShape .scalar .mapping) mark
      | node => .problem depth none (.otherShape .scalar node.shape) node.mark

/-- The truth value of a word. -/
def truthOf
    (text : String) : Except ScalarFault Bool :=
  let word := Text.lower text
  if ["yes", "true", "on"].contains word then .ok true
  else if ["no", "false", "off"].contains word then .ok false
  else .error (.truth word)

def bytesAt
    (depth : Nat)
    (mark : Mark)
    (text : String) : Outcome Value :=
  match beyondAscii? 0 text.toList with
  | some (position, c, count) =>
      .problem depth none (.notAscii (beyondAsciiReason position c count)) mark
  | none =>
      match bytesOf text.toList with
      | .ok bytes => .ok (.bytes bytes)
      | .error fault => .problem depth none (.notBase64 fault.reason) mark

/-- A value of a scalar at a depth. -/
def scalarAt
    {α : Type}
    (depth : Nat)
    (result : Except ScalarFault α)
    (value : α → Value) : Outcome Value :=
  match result with
  | .ok x => .ok (value x)
  | .error fault => .error (depth, .scalar fault)

/-! ## Merging -/

/-- A key of a mapping, which may be an equals sign. -/
def asKey : Node → Node
  | .scalar .value text mark => .scalar .text text mark
  | node => node

mutual

/-- The entries of a mapping with those that are merged into it, which come first. -/
def flattened
    (mark : Mark)
    (entries : List (Node × Node)) : Nat → Except Fault (List (Node × Node))
  | 0 => .ok entries
  | fuel + 1 => do
      let merged ← (entries.filter fun (key, _) => key.tag = .merge).mapM fun (_, value) =>
        mergedEntries mark value fuel
      let own := entries.filter fun (key, _) => key.tag ≠ .merge
      return merged.flatten ++ own.map fun (key, value) => (asKey key, value)

/-- The entries that a node merges into a mapping. Of several mappings the last ones come first. -/
def mergedEntries
    (mark : Mark)
    (value : Node) : Nat → Except Fault (List (Node × Node))
  | 0 => .ok []
  | fuel + 1 =>
      match value with
      | .mapping _ entries inner => flattened inner entries fuel
      | .sequence _ items _ => do
          let merged ← items.mapM fun item =>
            match item with
            | .mapping _ entries inner => flattened inner entries fuel
            | .enclosing _ .mapping _ => .ok []
            | item =>
                .error (.located (some (.mappingValue, some mark)) (.unmergeableItem item.shape)
                  item.mark)
          return merged.reverse.flatten
      | .enclosing _ _ _ => .ok []
      | .scalar _ _ inner =>
          .error (.located (some (.mappingValue, some mark)) (.unmergeable .scalar) inner)

end

/-! ## Collections -/

/-- Whether a value can be a key. -/
def isHashable : Value → Bool
  | .list _ => false
  | .map _ => false
  | .set _ => false
  | .enclosing _ => false
  | _ => true

/-- The value of a collection that is named inside itself. -/
def enclosingValue : Tag → Value
  | .mapping => .enclosing .map
  | .set => .enclosing .set
  | _ => .enclosing .list

mutual

def valueAt
    (depth : Nat)
    (node : Node) : Nat → Outcome Value
  | 0 => .ok .null
  | fuel + 1 =>
      let text := textAt depth (fuel + 1) node
      match node, node.tag with
      | .enclosing _ _ _, tag => .ok (enclosingValue tag)
      | _, .null => text.map fun _ => .null
      | _, .bool => text.bind fun text => scalarAt depth (truthOf text) .bool
      | _, .int => text.bind fun text => scalarAt depth (integerOf text.toList) .int
      | _, .float => text.bind fun text => scalarAt depth (floatOf text.toList) .float
      | _, .binary => text.bind fun text => bytesAt depth node.mark text
      | _, .timestamp =>
          text.bind fun text =>
            scalarAt depth (timeOf (Tag.withoutFinalBreak text.toList)) id
      | _, .text => text.map .text
      | _, .sequence => itemsAt (depth + 1) node fuel
      | _, .mapping => (entriesAt (depth + 1) node fuel).map Value.mapOfList
      | _, .set =>
          (entriesAt (depth + 1) node fuel).map fun entries =>
            match Value.mapOfList entries with
            | .map entries => .set (entries.map Prod.fst)
            | _ => .set []
      | _, .orderedMap => pairsAt (depth + 1) .orderedMap node fuel
      | _, .pairs => pairsAt (depth + 1) .pairs node fuel
      | _, tag => .problem depth none (.unknownTag tag.address) node.mark
  termination_by structural fuel => fuel

/-- The values of the items of a sequence. -/
def itemsAt
    (depth : Nat)
    (node : Node) : Nat → Outcome Value
  | 0 => .ok .null
  | fuel + 1 =>
      match node with
      | .sequence _ items _ =>
          (Outcome.all (items.map fun item => valueAt depth item fuel)).map .list
      | node => .problem depth none (.otherShape .sequence node.shape) node.mark
  termination_by structural fuel => fuel

/-- The keys and values of the entries of a mapping. -/
def entriesAt
    (depth : Nat)
    (node : Node) : Nat → Outcome (List (Value × Value))
  | 0 => .ok []
  | fuel + 1 =>
      match node with
      | .mapping _ entries mark =>
          match flattened mark entries (fuel + 1) with
          | .error fault => .error (depth, fault)
          | .ok entries =>
              Outcome.all <| entries.map fun (key, value) =>
                Outcome.both
                  (keyAt depth mark key fuel)
                  (valueAt depth value fuel)
      | node => .problem depth none (.otherShape .mapping node.shape) node.mark
  termination_by structural fuel => fuel

def keyAt
    (depth : Nat)
    (mark : Mark)
    (key : Node) : Nat → Outcome Value
  | 0 => .ok .null
  | fuel + 1 =>
      let unhashable : Outcome Value :=
        .problem depth (some (.mappingValue, some mark)) .unhashableKey key.mark
      match valueAt depth key fuel with
      | .ok value => if isHashable value then .ok value else unhashable
      | .error (faultDepth, fault) =>
          if depth < faultDepth then unhashable else .error (faultDepth, fault)
  termination_by structural fuel => fuel

/-- The keys and values of the mappings in a sequence, each of which has one entry. -/
def pairsAt
    (depth : Nat)
    (activity : Activity)
    (node : Node) : Nat → Outcome Value
  | 0 => .ok .null
  | fuel + 1 =>
      match node with
      | .sequence _ items mark =>
          let pairs := items.map fun item =>
            match item with
            | .mapping _ [(key, value)] _ =>
                (Outcome.both (valueAt depth key fuel) (valueAt depth value fuel)).map
                  fun (key, value) => Value.pair key value
            | .mapping _ entries inner =>
                .problem depth (some (activity, some mark)) (.notOneEntry entries.length) inner
            | item => .problem depth (some (activity, some mark)) (.noEntry item.shape) item.mark
          (Outcome.all pairs).map .list
      | node =>
          .problem depth (some (activity, some node.mark)) (.noEntrySequence node.shape) node.mark
  termination_by structural fuel => fuel

end

end Node

/-! ## Documents -/

/-- Whether a document may hold the character. -/
def isAllowed
    (c : Char) : Bool :=
  let code := c.toNat
  c = '\t' || c = '\n' || c = '\r' || (0x20 ≤ code && code ≤ 0x7E) || code = 0x85 ||
    (0xA0 ≤ code && code ≤ 0xD7FF) || (0xE000 ≤ code && code ≤ 0xFFFD) || 0x10000 ≤ code

/-- The first character that no document may hold, with its position. -/
def forbidden?
    (position : Nat) : List Char → Option Fault
  | [] => none
  | c :: rest =>
      if isAllowed c then forbidden? (position + 1) rest
      else some (.forbiddenCharacter c.toNat position)

/-- The value of the only document of a text, if there is one. -/
def read
    (text : String) : Except Fault (Option Value) := do
  let chars := text.toList
  match forbidden? 0 chars with
  | some fault => throw fault
  | none =>
      match (← nodeOf? chars) with
      | none => return none
      | some root =>
          match root.valueAt 0 (4 * chars.length + 8) with
          | .ok value => return some value
          | .error (_, fault) => throw fault

end Tablewright.Document
