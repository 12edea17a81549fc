import Tablewright.Layout.Outline

/-!
# Empty lines between statements

A definition stands apart from what surrounds it: by one empty line inside a block, and by two outside
of all blocks. Remarks right before a definition belong to it. Elsewhere empty lines stay, up to the
same numbers, except behind the head of a function.
-/

namespace Tablewright.Layout

/-- What is known of an entry when the gap before another one is chosen. -/
structure Trait where
  depth : Nat
  isRemark : Bool
  isDecorator : Bool
  isFunction : Bool
  isClass : Bool
  isImport : Bool
  /-- Whether it ends in the colon of a head. -/
  opensBlock : Bool
  /-- Whether it is a literal between three quotation marks. -/
  isDescription : Bool
  /-- Whether it begins a block that stands for itself. -/
  isIndependentHead : Bool
  deriving Repr, DecidableEq

/-- Whether pieces are a literal between three quotation marks. -/
def isDescriptionText
    (pieces : List Piece) : Bool :=
  match pieces with
  | [piece] =>
      piece.kind = .literal && (LiteralParts.ofText piece.text).quotes == ['"', '"', '"']
  | _ => false

/-- What is known of an entry. -/
def Entry.trait
    (entry : Entry) : Trait :=
  match entry.content with
  | .remark _ => ⟨entry.depth, true, false, false, false, false, false, false, false⟩
  | .statement statement =>
      let first := (statement.pieces.head?.map Piece.text).getD ""
      let heads := [StatementKind.function, .classHead, .blockHead]
      { depth := entry.depth
        isRemark := false
        isDecorator := statement.kind = .decorator
        isFunction := statement.kind = .function
        isClass := statement.kind = .classHead
        isImport := statement.kind = .importing
        opensBlock := heads.contains statement.kind
        isDescription := isDescriptionText statement.pieces
        isIndependentHead := ["with", "try", "for", "while", "if"].contains first }

namespace Trait

/-- Whether it begins a definition. -/
def isDefinition
    (trait : Trait) : Bool :=
  trait.isDecorator || trait.isFunction || trait.isClass

end Trait

/-- A choice of gaps. Lists are kept with the last item first. -/
structure Gaps where
  /-- The gaps that have been chosen. -/
  chosen : List Nat
  traits : List Trait
  /-- How deep the definitions are nested that have not ended. -/
  definitions : List Nat
  /-- Where remarks begin that may lead a definition: the number of gaps before theirs. -/
  leading : Option Nat
  deriving Repr

namespace Gaps

/-- No gap has been chosen. -/
def start : Gaps := ⟨[], [], [], none⟩

/-- Definitions that have ended leave a gap. -/
def afterDefinitions
    (trait : Trait) : List Nat → Nat → List Nat × Nat
  | [], gap => ([], gap)
  | depth :: outer, gap =>
      if depth < trait.depth then (depth :: outer, gap)
      else
        let gap :=
          if 0 < trait.depth then 1
          else if 0 < depth ∧ trait.opensBlock ∧ !trait.isIndependentHead ∧
              !trait.isFunction ∧ !trait.isClass then 1
          else 2
        afterDefinitions trait outer gap

/-- Whether remarks that begin behind an entry may lead a definition. -/
def mayLead
    (before : Option Trait) : Bool :=
  match before with
  | some trait => !trait.isClass && !trait.opensBlock
  | none => false

/-- The gap before a definition is put before the remarks that lead it. The number of gaps before
theirs counts from the first one. -/
def widenLeading
    (gap : Nat)
    (leading : Nat)
    (chosen : List Nat) : List Nat :=
  chosen.mapIdx fun i other => if i + leading + 1 = chosen.length then max other gap else other

/-- The gap before a definition. -/
def addDefinition
    (gaps : Gaps)
    (trait previous : Trait)
    (asked : Bool)
    (gap : Nat) : Gaps :=
  let wanted := if 0 < trait.depth then 1 else 2
  let put (gap : Nat) : Gaps := { gaps with chosen := gap :: gaps.chosen }
  if previous.isDecorator then put 0
  else if previous.depth < trait.depth && (previous.isClass || previous.isFunction) then
    put (if asked then 1 else 0)
  else if previous.isRemark && previous.depth = trait.depth && gap = 0 then
    match gaps.leading with
    | some leading =>
        if mayLead (gaps.traits[gaps.traits.length - leading]?) then
          { gaps with chosen := 0 :: widenLeading wanted leading gaps.chosen }
        else put 0
    | none => put 0
  else put wanted

/-- The gap before an entry that is no definition. -/
def plainGap
    (trait previous : Trait)
    (isSecond : Bool)
    (gap : Nat) : Nat :=
  if previous.isImport && !trait.isImport && previous.depth = trait.depth then max gap 1
  else if previous.isClass && trait.isDescription then 0
  else if previous.isFunction then 0
  else if isSecond && previous.isDescription then 1
  else gap

/-- Whether an entry describes a class. -/
def describesClass
    (traits : List Trait) : Bool :=
  match traits with
  | description :: head :: _ => description.isDescription && head.isClass
  | _ => false

/-- Where remarks begin that may lead a definition, once an entry has been added. -/
def leadingAfter
    (gaps : Gaps)
    (trait : Trait)
    (gap : Nat) : Option Nat :=
  if trait.isRemark then
    match gaps.traits with
    | [] => some 0
    | previous :: _ =>
        if !previous.isDecorator && (gaps.leading.isNone || 0 < gap) then some gaps.traits.length
        else gaps.leading
  else if trait.isDecorator && gap = 0 then gaps.leading
  else none

/-- Chooses the gap before an entry. -/
def add
    (gaps : Gaps)
    (entry : Entry) : Gaps :=
  let trait := entry.trait
  let limit := if trait.depth = 0 then 2 else 1
  let blanks := min entry.blanks limit
  let (definitions, gap) := afterDefinitions trait gaps.definitions blanks
  let definitions :=
    if trait.isFunction || trait.isClass then trait.depth :: definitions else definitions
  let next :=
    match gaps.traits with
    | [] => { gaps with chosen := [0] }
    | previous :: older =>
        let gaps :=
          if trait.isDefinition then gaps.addDefinition trait previous (0 < blanks) gap
          else
            { gaps with chosen := plainGap trait previous older.isEmpty gap :: gaps.chosen }
        if describesClass (previous :: older) then
          match gaps.chosen with
          | last :: rest => { gaps with chosen := max last 1 :: rest }
          | [] => gaps
        else gaps
  { next with
    traits := trait :: gaps.traits
    definitions := definitions
    leading := leadingAfter gaps trait (next.chosen.head?.getD 0) }

end Gaps

/-- The number of empty lines before each entry. -/
def gapsOf
    (entries : List Entry) : List Nat :=
  (entries.foldl Gaps.add Gaps.start).chosen.reverse

end Tablewright.Layout
