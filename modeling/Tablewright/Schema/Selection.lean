import Tablewright.Log

/-!
# Selecting tables

The tables of a schema that methods are generated for. A list of included tables, unless it is
empty, keeps only tables that stand in it; a list of excluded tables then drops the tables that
stand in it. The order of the schema is kept, and so is a table that is listed twice.
-/

namespace Tablewright.Schema

/-- Which tables to keep and which to drop. -/
structure Selection where
  /-- The tables to keep, or none to keep all. -/
  included : List String
  excluded : List String
  deriving Repr, DecidableEq

namespace Selection

/-- Whether the table is not left out for want of inclusion. -/
def isIncluded
    (selection : Selection)
    (table : String) : Bool :=
  selection.included.isEmpty || selection.included.contains table

/-- The tables that inclusion leaves. -/
def candidates
    (selection : Selection)
    (tables : List String) : List String :=
  tables.filter selection.isIncluded

def apply
    (selection : Selection)
    (tables : List String) : List String :=
  (selection.candidates tables).filter fun table => !selection.excluded.contains table

/-- The included tables that the schema does not have, each once and in alphabetic order. -/
def missing
    (selection : Selection)
    (tables : List String) : List String :=
  (selection.included.filter fun table => !tables.contains table).eraseDups.mergeSort
    fun a b => decide (a ≤ b)

/-- The tables that exclusion drops, in the order of the schema. -/
def dropped
    (selection : Selection)
    (tables : List String) : List String :=
  (selection.candidates tables).filter selection.excluded.contains

/-- What is logged about the selection. -/
def log
    (selection : Selection)
    (tables : List String) : List LogRecord :=
  let missing := selection.missing tables
  let dropped := selection.dropped tables
  (if missing.isEmpty then [] else
    [.warning ("Included tables not found in schema: " ++ String.intercalate ", " missing)]) ++
  (if dropped.isEmpty then [] else
    [.info ("Excluded tables: " ++ String.intercalate ", " dropped)])

end Selection

end Tablewright.Schema
