import Tablewright.Schema.Tables
import Tablewright.Schema.Token

/-!
# Names in a schema

What it is for all names in tokens, trees and lists of them to be good, whatever names are taken for
good. The tables of a tree have good names if its properties have.
-/

namespace Tablewright.Schema

variable {good : String → Prop}

/-- All properties of a tree have good names, as far as they have plain ones. -/
inductive Tree.IsNamed
    (good : String → Prop) : Tree → Prop where
  | node
      {kind : NodeKind}
      {children : List Tree}
      (named : ∀ name, kind = .property (some name) → good name)
      (below : ∀ child ∈ children, IsNamed good child) :
      IsNamed good (.node kind children)

/-- What readers yield, with what it is for all names in it to be good. -/
class Named (α : Type) where
  IsNamed : (String → Prop) → α → Prop

open Named (IsNamed)

namespace Named

variable {α : Type} [Named α]

instance : Named Unit where
  IsNamed _ _ := True

instance : Named Bool where
  IsNamed _ _ := True

instance : Named String where
  IsNamed good name := good name

instance : Named Token where
  IsNamed good token := ∀ spelling, token.kind = .word spelling → good spelling

instance : Named Tree where
  IsNamed := Tree.IsNamed

instance : Named (Option α) where
  IsNamed good value? := ∀ value, value? = some value → IsNamed good value

instance : Named (List α) where
  IsNamed good values := ∀ value ∈ values, IsNamed good value

@[simp] theorem isNamed_unit
    (value : Unit) :
    IsNamed good value :=
  trivial

@[simp] theorem isNamed_bool
    (value : Bool) :
    IsNamed good value :=
  trivial

@[simp] theorem isNamed_none :
    IsNamed good (none : Option α) := by
  intro value given
  cases given

@[simp] theorem isNamed_some
    {value : α} :
    IsNamed good (some value) ↔ IsNamed good value := by
  constructor
  · intro named
    exact named value rfl
  · intro named other given
    cases given
    exact named

@[simp] theorem isNamed_nil :
    IsNamed good ([] : List α) := by
  intro value member
  cases member

@[simp] theorem isNamed_cons
    {value : α}
    {values : List α} :
    IsNamed good (value :: values) ↔ IsNamed good value ∧ IsNamed good values :=
  List.forall_mem_cons

@[simp] theorem isNamed_append
    {values others : List α} :
    IsNamed good (values ++ others) ↔ IsNamed good values ∧ IsNamed good others :=
  List.forall_mem_append

@[simp] theorem isNamed_toList
    {value? : Option α} :
    IsNamed good value?.toList ↔ IsNamed good value? := by
  cases value? <;> simp

theorem isNamed_head?
    {values : List α}
    (named : IsNamed good values) :
    IsNamed good values.head? := by
  cases values with
  | nil =>
      exact isNamed_none
  | cons value rest =>
      exact isNamed_some.mpr (isNamed_cons.mp named).1

theorem isNamed_of_isSuffix
    {values others : List α}
    (named : IsNamed good values)
    (isEnd : others <:+ values) :
    IsNamed good others :=
  fun value member => named value (isEnd.subset member)

end Named

namespace Tree

/-- A node is well named if it is so itself and everything below it is. -/
theorem isNamed_node
    {kind : NodeKind}
    {children : List Tree} :
    Named.IsNamed good (Tree.node kind children) ↔
      (∀ name, kind = .property (some name) → good name) ∧ Named.IsNamed good children := by
  constructor
  · rintro ⟨named, below⟩
    exact ⟨named, below⟩
  · rintro ⟨named, below⟩
    exact .node named below

@[simp] theorem isNamed_group
    {children : List Tree} :
    Named.IsNamed good (group children) ↔ Named.IsNamed good children := by
  simp [group, isNamed_node]

@[simp] theorem isNamed_leaf :
    Named.IsNamed good leaf := by
  simp [leaf]

@[simp] theorem isNamed_objectType
    {members : List Tree} :
    Named.IsNamed good (objectType members) ↔ Named.IsNamed good members := by
  simp [objectType, isNamed_node]

@[simp] theorem isNamed_property
    {name? : Option String}
    {type? : Option Tree} :
    Named.IsNamed good (property name? type?) ↔
      Named.IsNamed good name? ∧ Named.IsNamed good type? := by
  have ownName :
      (∀ name, NodeKind.property name? = .property (some name) → good name) ↔
        Named.IsNamed good name? := by
    constructor
    · rintro named name rfl
      exact named name rfl
    · intro named name same
      cases same
      exact named name rfl
  rw [property, isNamed_node, ownName]
  cases type? <;> simp [isNamed_node]

end Tree

/-! ## Tables -/

/-- A node that is a table has the name of a property. -/
theorem good_of_tableName?
    {ancestors : Ancestors}
    {kind : NodeKind}
    {table : String}
    (named : ∀ name, kind = .property (some name) → good name)
    (isTable : tableName? ancestors kind = some table) :
    good table := by
  unfold tableName? at isTable
  split at isTable
  · next name =>
      split at isTable
      · split at isTable
        · cases isTable
          exact named _ rfl
        · cases isTable
      · cases isTable
  · cases isTable

mutual

theorem good_of_mem_tablesBelow
    (ancestors : Ancestors)
    (tree : Tree)
    (named : IsNamed good tree) :
    ∀ table ∈ tablesBelow ancestors tree, good table := by
  cases tree with
  | node kind children =>
      obtain ⟨own, below⟩ := Tree.isNamed_node.mp named
      intro table listed
      rw [tablesBelow, List.mem_append, Option.mem_toList] at listed
      rcases listed with isTable | listed
      · exact good_of_tableName? own isTable
      · exact good_of_mem_tablesOfAll (kind :: ancestors) children below table listed

theorem good_of_mem_tablesOfAll
    (ancestors : Ancestors)
    (trees : List Tree)
    (named : IsNamed good trees) :
    ∀ table ∈ tablesOfAll ancestors trees, good table := by
  cases trees with
  | nil =>
      intro table listed
      rw [tablesOfAll] at listed
      cases listed
  | cons tree rest =>
      obtain ⟨first, others⟩ := Named.isNamed_cons.mp named
      intro table listed
      rw [tablesOfAll, List.mem_append] at listed
      rcases listed with listed | listed
      · exact good_of_mem_tablesBelow ancestors tree first table listed
      · exact good_of_mem_tablesOfAll ancestors rest others table listed

end

/-- The tables of a tree have good names if all its properties have. -/
theorem Tree.good_of_mem_tables
    {tree : Tree}
    (named : IsNamed good tree) :
    ∀ table ∈ tree.tables, good table :=
  good_of_mem_tablesBelow [] tree named

end Tablewright.Schema
