import Tablewright.Files.Tree

/-!
# Places that paths lead to

A place names what it leads through from the root, so it holds no double dots. Resolving a path
from such a place gives one again, and a single name put beside it stays in the same directory.
-/

namespace Tablewright.Files

/-- A place that is reached by going down only. -/
def Place.IsPlain
    (place : Place) : Prop :=
  ".." ∉ place

instance
    (place : Place) : Decidable place.IsPlain :=
  inferInstanceAs (Decidable (".." ∉ place))

namespace Place.IsPlain

/-- The way to a plain place leads through plain places. -/
theorem dropLast
    {place : Place}
    (plain : place.IsPlain) :
    Place.IsPlain (List.dropLast place) := by
  intro member
  exact plain (List.dropLast_subset place member)

/-- One step down from a plain place. -/
theorem append_singleton
    {place : Place}
    {name : String}
    (plain : place.IsPlain)
    (named : name ≠ "..") :
    Place.IsPlain (place ++ [name]) := by
  intro member
  rcases List.mem_append.mp member with inPlace | isName
  · exact plain inPlace
  · exact named (List.mem_singleton.mp isName).symm

end Place.IsPlain

namespace Path

/-- Going along names from a plain place ends at a plain place. -/
theorem walk_isPlain
    {place : Place}
    (plain : place.IsPlain)
    (names : List String) :
    Place.IsPlain (walk place names) := by
  fun_induction walk place names with
  | case1 place =>
      exact plain
  | case2 place rest inductionHypothesis =>
      exact inductionHypothesis plain.dropLast
  | case3 place name rest notDots inductionHypothesis =>
      exact inductionHypothesis (plain.append_singleton notDots)

/-- Names that do not go up are added one after another. -/
theorem walk_of_isPlain
    {names : List String}
    (plain : Place.IsPlain names)
    (place : Place) :
    walk place names = place ++ names := by
  induction names generalizing place with
  | nil =>
      simp [walk]
  | cons name rest inductionHypothesis =>
      have notDots : name ≠ ".." := by
        intro isDots
        exact plain (isDots ▸ List.mem_cons_self)
      have restPlain : Place.IsPlain rest :=
        fun member => plain (List.mem_cons_of_mem name member)
      simp [walk, inductionHypothesis restPlain]

/-- Going along names and then further ones. -/
theorem walk_append
    (place names further : List String) :
    walk place (names ++ further) = walk (walk place names) further := by
  fun_induction walk place names with
  | case1 place =>
      rfl
  | case2 place rest inductionHypothesis =>
      exact inductionHypothesis
  | case3 place name rest notDots inductionHypothesis =>
      simpa [walk, notDots] using inductionHypothesis

/-- A path that starts at a plain working directory, or at the root, leads to a plain place. -/
theorem placeFrom_isPlain
    {workingDirectory : Place}
    (plain : workingDirectory.IsPlain)
    (path : Path) :
    Place.IsPlain (path.placeFrom workingDirectory) := by
  unfold placeFrom
  split
  · exact walk_isPlain plain path.names
  · exact walk_isPlain (by simp [Place.IsPlain]) path.names

/-- No part of a text between slashes holds a slash. -/
theorem slash_not_mem_splitAtSlashes
    (text : List Char) :
    '/' ∉ (splitAtSlashes text).1 ∧
      ∀ part ∈ (splitAtSlashes text).2, '/' ∉ part := by
  induction text with
  | nil =>
      simp [splitAtSlashes]
  | cons c rest inductionHypothesis =>
      obtain ⟨firstFree, othersFree⟩ := inductionHypothesis
      by_cases isSlash : c = '/'
      · simpa [splitAtSlashes, isSlash] using
          ⟨firstFree, othersFree⟩
      · simpa [splitAtSlashes, isSlash, Ne.symm isSlash] using
          ⟨firstFree, othersFree⟩

/-- A text without slashes is a single part. -/
theorem splitAtSlashes_of_not_mem
    {text : List Char}
    (free : '/' ∉ text) :
    splitAtSlashes text = (text, []) := by
  induction text with
  | nil =>
      rfl
  | cons c rest inductionHypothesis =>
      simp only [List.mem_cons, not_or] at free
      obtain ⟨notSlash, restFree⟩ := free
      simp [splitAtSlashes, inductionHypothesis restFree,
        Ne.symm notSlash]

/-- No name of the path of a text holds a slash. -/
theorem slash_not_mem_of_mem_names
    {text name : String}
    (member : name ∈ (ofText text).names) :
    '/' ∉ name.toList := by
  simp only [ofText, List.mem_map, List.mem_filter] at member
  obtain ⟨part, ⟨isPart, -⟩, rfl⟩ := member
  have free := slash_not_mem_splitAtSlashes text.toList
  rcases List.mem_cons.mp isPart with isFirst | isOther
  · simpa [isFirst] using free.1
  · simpa using free.2 part isOther

/-- A text that is its own last name is the path of that name alone. -/
theorem ofText_of_name_eq
    {text : String}
    (nonempty : text ≠ "")
    (bare : (ofText text).name = text) :
    ofText text = ⟨.workingDirectory, [text]⟩ := by
  have member : text ∈ (ofText text).names := by
    cases shape : (ofText text).names.getLast? with
    | none =>
        simp [name, shape] at bare
        exact (nonempty bare).elim
    | some last =>
        simp [name, shape] at bare
        subst last
        exact List.mem_of_getLast? shape
  have free := slash_not_mem_of_mem_names member
  have single := splitAtSlashes_of_not_mem free
  have noLeading :
      text.toList.takeWhile (fun c => c = '/') = [] := by
    cases shape : text.toList with
    | nil =>
        rfl
    | cons c rest =>
        have notSlash : c ≠ '/' := by
          intro isSlash
          simp [shape, isSlash] at free
        simp [notSlash]
  cases kept : isName text.toList with
  | false =>
      simp [ofText, single, kept] at member
  | true =>
      simp [ofText, single, kept, anchorOf, noLeading]

end Path

/-- A template with a single name stands in the directory of the output. -/
theorem templatePath_ofPlace
    {filename : String}
    (nonempty : filename ≠ "")
    (bare : (Path.ofText filename).name = filename)
    (place : Place) :
    templatePath (.ofPlace place) filename =
      .ofPlace (place.dropLast ++ [filename]) := by
  simp [templatePath, Path.sibling, Path.parent, Path.join, Path.ofPlace,
    Path.ofText_of_name_eq nonempty bare]

end Tablewright.Files
