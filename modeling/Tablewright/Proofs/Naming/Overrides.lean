import Tablewright.Naming.Overrides
import Tablewright.Proofs.Value.Keyed

/-!
# Tables of overrides

Giving the forms of a table leaves those of all others alone. So each table is there once, and of
overrides that are added to others those that are added prevail.
-/

namespace Tablewright.Naming.Overrides

/-- The tables that have forms, in their order. -/
def tables
    (overrides : Overrides) : List String :=
  overrides.map Prod.fst

variable {overrides : Overrides}
variable {table : String}
variable {forms : Inflection}

/-- The forms of a table are set in the place of those that it had. -/
theorem set_eq_keyedSet
    (table : String)
    (forms : Inflection)
    (overrides : Overrides) :
    set table forms overrides = Keyed.set table forms overrides := by
  induction overrides with
  | nil =>
      rfl
  | cons entry rest inductionHypothesis =>
      rw [set, Keyed.set, inductionHypothesis]

/-- A table without forms gets them at the end. -/
theorem set_of_not_mem
    (unlisted : table ∉ overrides.tables) :
    set table forms overrides = overrides ++ [(table, forms)] := by
  rw [set_eq_keyedSet]
  exact Keyed.set_of_not_mem unlisted

/-- The entries are the one that is set, and some of those that were there. -/
theorem mem_of_mem_set
    {entry : String × Inflection}
    (member : entry ∈ set table forms overrides) :
    entry = (table, forms) ∨ entry ∈ overrides := by
  rw [set_eq_keyedSet] at member
  exact Keyed.mem_of_mem_set member

/-- Each table is there once when it was so before. -/
theorem nodup_tables_set
    (distinct : overrides.tables.Nodup) :
    (set table forms overrides).tables.Nodup := by
  rw [set_eq_keyedSet]
  exact Keyed.nodup_keys_set distinct

theorem find?_cons
    (entry : String × Inflection)
    (rest : Overrides)
    (other : String) :
    find? (entry :: rest) other = if other = entry.1 then some entry.2 else rest.find? other := by
  rw [find?, List.lookup_cons]
  by_cases isEntry : other = entry.1
  · rw [if_pos isEntry, beq_iff_eq.mpr isEntry]
  · have differs : (other == entry.1) = false := by
      simpa using isEntry
    rw [if_neg isEntry, differs]
    rfl

/-- The table has the forms that are given, and each other one those that it had. -/
theorem find?_set
    (other : String) :
    (set table forms overrides).find? other =
      if other = table then some forms else overrides.find? other := by
  induction overrides with
  | nil =>
      rw [set, find?_cons]
  | cons entry rest inductionHypothesis =>
      rw [set]
      split
      · next isFirst =>
          rw [find?_cons, find?_cons]
          dsimp only
          rw [isFirst]
          split <;> rfl
      · next notFirst =>
          rw [find?_cons, find?_cons, inductionHypothesis]
          by_cases isEntry : other = entry.1
          · have isOther : other ≠ table := by
              rw [isEntry]
              exact notFirst
            simp [isEntry, notFirst]
          · simp [isEntry]

theorem find?_eq_none_of_not_mem
    (unlisted : table ∉ overrides.tables) :
    overrides.find? table = none := by
  induction overrides with
  | nil =>
      rfl
  | cons entry rest inductionHypothesis =>
      obtain ⟨notFirst, notLater⟩ := not_or.mp (mt List.mem_cons.mpr unlisted)
      rw [find?_cons, if_neg notFirst, inductionHypothesis notLater]

/-- Overrides that are added prevail over those that they are added to. -/
theorem find?_extend
    {extra : Overrides}
    (distinct : extra.tables.Nodup) :
    (overrides.extend extra).find? table = (extra.find? table).or (overrides.find? table) := by
  induction extra generalizing overrides with
  | nil =>
      rfl
  | cons entry rest inductionHypothesis =>
      obtain ⟨notAgain, restDistinct⟩ := List.nodup_cons.mp distinct
      have step :
          overrides.extend (entry :: rest) = (overrides.set entry.1 entry.2).extend rest :=
        rfl
      rw [step, inductionHypothesis restDistinct, find?_set, find?_cons]
      by_cases isEntry : table = entry.1
      · rw [isEntry, find?_eq_none_of_not_mem notAgain]
        simp
      · simp [isEntry]

/-- Overrides are added by setting the forms of one table after another. -/
theorem extend_eq_keyedSetAll
    (overrides extra : Overrides) :
    overrides.extend extra = Keyed.setAll overrides extra := by
  induction extra generalizing overrides with
  | nil =>
      rfl
  | cons entry rest inductionHypothesis =>
      have step :
          overrides.extend (entry :: rest) = (overrides.set entry.1 entry.2).extend rest :=
        rfl
      rw [step, inductionHypothesis, set_eq_keyedSet]
      rfl

/-- When overrides are added, the tables that had forms keep their places, and the others come behind
in the order in which they are added. -/
theorem tables_extend
    {extra : Overrides}
    (distinct : extra.tables.Nodup) :
    (overrides.extend extra).tables =
      overrides.tables ++ extra.tables.filter fun table => table ∉ overrides.tables := by
  rw [extend_eq_keyedSetAll]
  exact Keyed.keys_setAll distinct

/-- Each table is there once when that was so before others were added. -/
theorem nodup_tables_extend
    (distinct : overrides.tables.Nodup)
    (extra : Overrides) :
    (overrides.extend extra).tables.Nodup := by
  rw [extend_eq_keyedSetAll]
  exact Keyed.nodup_keys_setAll distinct

end Tablewright.Naming.Overrides
