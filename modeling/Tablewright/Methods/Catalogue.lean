import Tablewright.Log
import Tablewright.Methods.Block
import Tablewright.Report

/-!
# Method blocks of a list of tables

Each table in turn gets its names, which have to be definable and must not be those of primitives,
and then its block. No two different tables may produce a method of the same name; a table that is
listed again gets the same block again. The first table that fails ends the work.
-/

namespace Tablewright.Methods

open Naming (NameForms NamingError Overrides Pluralizer)

/-- How tables are named. -/
structure NamingPlan where
  overrides : Overrides
  pluralizer : Pluralizer
  style : MethodStyle
  deriving Repr, DecidableEq

/-- Why a table gets no block. -/
inductive BlockFault where
  | naming (error : NamingError)
  | name (fault : NameFault)
  /-- Another table produces a method of the same name. -/
  | clash (owner method : String)
  deriving Repr

/-- The table that failed, the number of tables before it, and the reason. -/
structure BlockFailure where
  position : Nat
  table : String
  fault : BlockFault
  deriving Repr

/-- The block of a table by itself. -/
def MethodBlock.ofTable
    (plan : NamingPlan)
    (table : String) : Except BlockFault MethodBlock :=
  match NameForms.derive table plan.overrides plan.pluralizer with
  | .error error => .error (.naming error)
  | .ok forms =>
      match firstFault? (methodNames plan.style forms) with
      | some fault => .error (.name fault)
      | none => .ok ⟨table, forms, plan.style⟩

/-- The first table that produced each method name. -/
abbrev Owners := List (String × String)

namespace Owners

/-- Enters the methods of a table, up to the first that belongs to another table. -/
def claim
    (table : String) : Owners → List String → Except (String × String) Owners
  | owners, [] => .ok owners
  | owners, method :: rest =>
      match owners.lookup method with
      | none => claim table (owners ++ [(method, table)]) rest
      | some owner => if owner = table then claim table owners rest else .error (owner, method)

end Owners

/-- The blocks of tables, after `position` tables whose methods have owners. -/
def blocksFrom
    (plan : NamingPlan)
    (position : Nat)
    (owners : Owners) : List String → Except BlockFailure (List MethodBlock)
  | [] => .ok []
  | table :: rest =>
      match MethodBlock.ofTable plan table with
      | .error fault => .error ⟨position, table, fault⟩
      | .ok block =>
          match owners.claim table block.names with
          | .error (owner, method) => .error ⟨position, table, .clash owner method⟩
          | .ok owners =>
              (blocksFrom plan (position + 1) owners rest).map (block :: ·)

/-- The blocks of tables, in the order of the list. -/
def blocksOf
    (plan : NamingPlan)
    (tables : List String) : Except BlockFailure (List MethodBlock) :=
  blocksFrom plan 0 [] tables

/-- The report of a table whose method names are refused. -/
def NameFault.report
    (fault : NameFault)
    (table : String) : Report :=
  match fault with
  | .invalid name =>
      Report.make .generation
        ("Table '" ++ table ++ "' produces invalid method name '" ++ name ++ "'") (some table) [] []
  | .shadows name =>
      Report.make .generation
        ("Table '" ++ table ++ "' produces method '" ++ name ++
          "' which shadows a generic primitive")
        (some table) []
        ["Add a plural_overrides entry for this table", "Switch method_style to 'camel'"]

/-- The report of a table that produces a method of another table. -/
def clashReport
    (owner table method : String) : Report :=
  Report.make .generation
    ("Tables '" ++ owner ++ "' and '" ++ table ++ "' both produce method '" ++ method ++ "'")
    (some table) []
    ["Add a plural_overrides entry for '" ++ table ++ "' or '" ++ owner ++ "'",
      "Exclude one of the tables with exclude_tables"]

/-- What is logged about a table whose forms are derived. -/
def namingLog
    (plan : NamingPlan)
    (table : String) : List LogRecord :=
  match plan.overrides.find? table with
  | some forms =>
      [.debug ("Using plural override for '" ++ table ++ "': " ++ forms.singular ++ "/" ++
        forms.plural)]
  | none => []

/-- What is logged about a table that has a block. -/
def blockLog
    (plan : NamingPlan)
    (table : String) : List LogRecord :=
  namingLog plan table ++
    [.debug ("Synthesized " ++ toString Primitive.all.length ++ " methods for table '" ++ table ++
      "'")]

/-- What is logged while the blocks of tables are made. -/
def blocksLog
    (plan : NamingPlan)
    (tables : List String) : List LogRecord :=
  match blocksOf plan tables with
  | .ok _ => tables.flatMap (blockLog plan)
  | .error failure =>
      (tables.take failure.position).flatMap (blockLog plan) ++
        match failure.fault with
        | .naming _ => []
        | .name _ => namingLog plan failure.table
        | .clash _ _ => blockLog plan failure.table

end Tablewright.Methods
