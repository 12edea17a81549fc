import Mathlib.Data.List.Nodup

/-!
# Entries with keys

An entry is set in the place of the one with its key, if there is one. So each key is there once, and
of several entries that are set none is lost exactly when they have different keys.
-/

namespace Tablewright.Keyed

variable {α : Type}

/-- The entries with one set: in place if its key is there, else at the end. -/
def set
    (key : String)
    (value : α) : List (String × α) → List (String × α)
  | [] => [(key, value)]
  | (other, old) :: rest =>
      if other = key then (other, value) :: rest else (other, old) :: set key value rest

/-- Entries with others set, one after another. -/
def setAll
    (entries further : List (String × α)) : List (String × α) :=
  further.foldl (fun kept (key, value) => set key value kept) entries

/-- The keys of entries, in their order. -/
def keys
    (entries : List (String × α)) : List String :=
  entries.map Prod.fst

variable {key : String}
variable {value : α}
variable {entries : List (String × α)}

theorem setAll_append
    (further more : List (String × α)) :
    setAll entries (further ++ more) = setAll (setAll entries further) more :=
  List.foldl_append

/-- An entry with a new key is set at the end. -/
theorem set_of_not_mem
    (isNew : key ∉ keys entries) :
    set key value entries = entries ++ [(key, value)] := by
  induction entries with
  | nil =>
      rfl
  | cons entry rest inductionHypothesis =>
      obtain ⟨notFirst, notLater⟩ := not_or.mp (mt List.mem_cons.mpr isNew)
      rw [set, if_neg (Ne.symm notFirst), inductionHypothesis notLater]
      rfl

/-- Setting an entry adds its key at the end, unless it is there. -/
theorem keys_set :
    keys (set key value entries) =
      if key ∈ keys entries then keys entries else keys entries ++ [key] := by
  induction entries with
  | nil =>
      rfl
  | cons first rest inductionHypothesis =>
      rw [set]
      split
      · next isFirst =>
          have isThere : key ∈ keys (first :: rest) := by
            simp [keys, isFirst]
          rw [if_pos isThere]
          rfl
      · next notFirst =>
          have sameRest : key ∈ keys (first :: rest) ↔ key ∈ keys rest := by
            simp [keys, Ne.symm notFirst]
          rw [keys, List.map_cons, ← keys, inductionHypothesis]
          by_cases isThere : key ∈ keys rest
          · rw [if_pos isThere, if_pos (sameRest.mpr isThere)]
            rfl
          · rw [if_neg isThere, if_neg (mt sameRest.mp isThere)]
            rfl

/-- The entries are the one that is set, and some of those that were there. -/
theorem mem_of_mem_set
    {entry : String × α}
    (member : entry ∈ set key value entries) :
    entry = (key, value) ∨ entry ∈ entries := by
  induction entries with
  | nil =>
      exact Or.inl (List.mem_singleton.mp member)
  | cons first rest inductionHypothesis =>
      rw [set] at member
      split at member
      · next isFirst =>
          rcases List.mem_cons.mp member with rfl | later
          · exact Or.inl (by rw [isFirst])
          · exact Or.inr (List.mem_cons_of_mem first later)
      · rcases List.mem_cons.mp member with rfl | later
        · exact Or.inr List.mem_cons_self
        · rcases inductionHypothesis later with isNew | wasThere
          · exact Or.inl isNew
          · exact Or.inr (List.mem_cons_of_mem first wasThere)

/-- Each key is there once when it was so before. -/
theorem nodup_keys_set
    (distinct : (keys entries).Nodup) :
    (keys (set key value entries)).Nodup := by
  induction entries with
  | nil =>
      simp [set, keys]
  | cons first rest inductionHypothesis =>
      obtain ⟨notAgain, restDistinct⟩ := List.nodup_cons.mp distinct
      rw [set]
      split
      · exact distinct
      · next notFirst =>
          refine List.nodup_cons.mpr ⟨?_, inductionHypothesis restDistinct⟩
          intro again
          obtain ⟨entry, member, sameKey⟩ := List.mem_map.mp again
          rcases mem_of_mem_set member with rfl | wasThere
          · exact notFirst sameKey.symm
          · exact notAgain (List.mem_map.mpr ⟨entry, wasThere, sameKey⟩)

/-- Of keys that are set one after another, those that were there keep their places, and the new ones
come behind in their order. -/
theorem keys_setAll
    {further : List (String × α)}
    (distinct : (keys further).Nodup) :
    keys (setAll entries further) =
      keys entries ++ (keys further).filter fun key => key ∉ keys entries := by
  induction further generalizing entries with
  | nil =>
      simp [setAll, keys]
  | cons entry rest inductionHypothesis =>
      obtain ⟨key, value⟩ := entry
      obtain ⟨notAgain, restDistinct⟩ := List.nodup_cons.mp distinct
      have step : setAll entries ((key, value) :: rest) = setAll (set key value entries) rest :=
        rfl
      have split : keys ((key, value) :: rest) = key :: keys rest :=
        rfl
      rw [step, inductionHypothesis restDistinct, keys_set, split]
      by_cases isThere : key ∈ keys entries
      · rw [if_pos isThere, List.filter_cons_of_neg (by simpa using isThere)]
      · have sameRest :
            ((keys rest).filter fun other => other ∉ keys entries ++ [key]) =
              (keys rest).filter fun other => other ∉ keys entries := by
          refine List.filter_congr fun other member => ?_
          have differs : other ≠ key :=
            ne_of_mem_of_not_mem member notAgain
          simp [differs]
        rw [if_neg isThere, sameRest, List.filter_cons_of_pos (by simpa using isThere),
          List.append_assoc]
        rfl

theorem nodup_keys_setAll
    {further : List (String × α)}
    (distinct : (keys entries).Nodup) :
    (keys (setAll entries further)).Nodup := by
  induction further generalizing entries with
  | nil =>
      exact distinct
  | cons entry rest inductionHypothesis =>
      exact inductionHypothesis (nodup_keys_set distinct)

/-- Entries whose keys are all different are set at the end, in their order. -/
theorem setAll_of_nodup_keys
    {further : List (String × α)}
    (distinct : (keys (entries ++ further)).Nodup) :
    setAll entries further = entries ++ further := by
  induction further generalizing entries with
  | nil =>
      rw [List.append_nil]
      rfl
  | cons entry rest inductionHypothesis =>
      obtain ⟨key, value⟩ := entry
      have isNew : key ∉ keys entries := by
        rw [keys, List.map_append, List.nodup_append] at distinct
        intro wasThere
        exact distinct.2.2 key wasThere key List.mem_cons_self rfl
      have regrouped : entries ++ (key, value) :: rest = (entries ++ [(key, value)]) ++ rest := by
        simp
      rw [regrouped] at distinct ⊢
      rw [← inductionHypothesis distinct, ← set_of_not_mem isNew]
      rfl

/-- Entries that are set one after another are all kept, in their order, exactly when no two have the
same key. -/
theorem setAll_nil_eq_iff
    {further : List (String × α)} :
    setAll [] further = further ↔ (keys further).Nodup := by
  constructor
  · intro kept
    rw [← kept]
    exact nodup_keys_setAll List.nodup_nil
  · intro distinct
    exact setAll_of_nodup_keys distinct

end Tablewright.Keyed
