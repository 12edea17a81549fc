import Mathlib.Data.List.Nodup
import Tablewright.Proofs.Settings.TableLists
import Tablewright.Proofs.Text.Joined

/-!
# Places of problems

Whatever is wrong with an option is told at places that begin with the name of the option, and all
options but the overrides have one place at most. A text of a place up to its first blank is the name
of the option, so problems with different options are never told at places with the same text.
-/

namespace Tablewright.Settings

/-- The text of a place: its names, with arrows between them. -/
def joinedPlace
    (place : List String) : String :=
  String.intercalate " -> " place

/-- A text up to its first blank. -/
def firstWord
    (text : String) : String :=
  String.ofList (text.toList.takeWhile (· ≠ ' '))

/-- The names on the way down to a place come behind those that lead to its start. -/
theorem joinedPlace_append
    (name : String)
    (names below : List String) :
    joinedPlace (name :: names ++ below) =
      joinedPlace (name :: names) ++ String.join (below.map (" -> " ++ ·)) := by
  rw [joinedPlace, joinedPlace, List.cons_append, Text.intercalate_cons_eq_join,
    Text.intercalate_cons_eq_join, List.map_append, String.join_append, String.append_assoc]

/-- The first word of a place is the first name on the way to it. -/
theorem firstWord_joinedPlace
    {name : String}
    (plain : ' ' ∉ name.toList)
    (below : List String) :
    firstWord (joinedPlace (name :: below)) = name := by
  have nameTaken : ∀ c ∈ name.toList, decide (c ≠ ' ') = true := by
    intro c member
    apply decide_eq_true
    rintro rfl
    exact plain member
  have restLeft :
      (String.join (below.map (" -> " ++ ·))).toList.takeWhile (· ≠ ' ') = [] := by
    cases below with
    | nil =>
        rfl
    | cons next others =>
        rw [List.map_cons, String.join_cons, String.append_assoc, String.toList_append]
        rfl
  rw [firstWord, joinedPlace, Text.intercalate_cons_eq_join, String.toList_append,
    List.takeWhile_append_of_pos nameTaken, restLeft, List.append_nil, String.ofList_toList]

/-! ## Problems of checks -/

section Places

variable {α β : Type}

/-- What is wrong, if anything is. -/
def problemsOf : Checked α → List Problem
  | .ok _ => []
  | .error problems => problems

/-- The places of what is wrong. -/
def placesOf
    (checked : Checked α) : List (List String) :=
  (problemsOf checked).map Problem.place

theorem placesOf_both
    (a : Checked α)
    (b : Checked β) :
    placesOf (both a b) = placesOf a ++ placesOf b := by
  cases a <;> cases b <;> simp [placesOf, problemsOf, both]

theorem placesOf_map
    (checked : Checked α)
    (change : α → β) :
    placesOf (checked.map change) = placesOf checked := by
  cases checked <;> rfl

/-- A check that tells one problem, if any, and tells it at the place. -/
def TellsOnlyAt
    (place : List String)
    (checked : Checked α) : Prop :=
  ∀ problems,
    checked = .error problems →
    problems.map Problem.place = [place]

namespace TellsOnlyAt

variable {place : List String}

theorem ok
    (value : α) :
    TellsOnlyAt place (.ok value) := by
  intro problems isError
  cases isError

theorem problem
    (message : String) :
    TellsOnlyAt place (problem place message : Checked α) := by
  rintro _ ⟨⟩
  rfl

theorem misfitting
    (result : Except ScalarFault α) :
    TellsOnlyAt place (misfitting place result) := by
  cases result with
  | error fault =>
      rintro _ ⟨⟩
      rfl
  | ok value =>
      exact ok value

theorem map
    {checked : Checked α}
    (tells : TellsOnlyAt place checked)
    (change : α → β) :
    TellsOnlyAt place (checked.map change) := by
  cases checked with
  | error problems =>
      rintro _ ⟨⟩
      exact tells problems rfl
  | ok value =>
      exact ok (change value)

/-- If a check and what follows on it tell problems at a place only, so do both in a row. -/
theorem bind
    {checked : Checked α}
    {next : α → Checked β}
    (tells : TellsOnlyAt place checked)
    (nextTells : ∀ value, TellsOnlyAt place (next value)) :
    TellsOnlyAt place (checked >>= next) := by
  cases checked with
  | error problems =>
      rintro _ ⟨⟩
      exact tells problems rfl
  | ok value =>
      exact nextTells value

theorem checkText
    (rule : String → Option String)
    (value : Value) :
    TellsOnlyAt place (checkText place rule value) := by
  refine bind (misfitting (textOf value)) ?_
  intro text
  split
  · exact problem _
  · split
    · exact problem _
    · exact ok text

theorem checkChoice
    (ofName? : String → Option α)
    (choices : String)
    (value : Value) :
    TellsOnlyAt place (checkChoice place ofName? choices value) := by
  unfold Settings.checkChoice
  split
  · split
    · exact ok _
    · exact problem _
  · exact problem _

theorem checkTimeout
    (value : Value) :
    TellsOnlyAt place (checkTimeout place value) := by
  refine bind (misfitting (numberOf value)) ?_
  intro seconds
  split
  · exact ok seconds
  · exact problem _

theorem checkTableItems
    {index : Nat}
    {items : List Value}
    {checked : Checked (List String)}
    (carried : checkTableItems place index items = .ok checked) :
    TellsOnlyAt place checked := by
  induction items generalizing index checked with
  | nil =>
      cases carried
      exact ok []
  | cons first rest inductionHypothesis =>
      obtain ⟨s, -, ⟨message, rfl⟩ | ⟨-, names, further, rfl⟩⟩ :=
        checkTableItems_cons_cases carried
      · exact problem _
      · exact (inductionHypothesis further).map _

theorem checkTables
    {value : Value}
    {checked : Checked (Option (List String))}
    (carried : checkTables place value = .ok checked) :
    TellsOnlyAt place checked := by
  rcases checkTables_cases carried with rfl | ⟨items, names, itemsChecked, rfl⟩
  · exact ok none
  · exact (checkTableItems itemsChecked).map some

theorem checkTablesOption
    {entries : List (Value × Value)}
    {name : String}
    {checked : Checked (Option (List String))}
    (carried : checkTablesOption entries name = .ok checked) :
    TellsOnlyAt [name] checked := by
  rcases checkTablesOption_cases carried with rfl | ⟨value, valueChecked⟩
  · exact ok none
  · exact checkTables valueChecked

theorem checkOption
    {name : String}
    {check : List String → Value → Checked α}
    (tells : ∀ value, TellsOnlyAt [name] (check [name] value))
    (entries : List (Value × Value))
    (own : α) :
    TellsOnlyAt [name] (checkOption entries name own check) := by
  unfold Settings.checkOption
  split
  · exact ok own
  · exact tells _

variable {checked : Checked α}

/-- The place is told exactly when the check comes to no value. -/
theorem mem_placesOf_iff
    (tells : TellsOnlyAt place checked)
    {told : List String} :
    told ∈ placesOf checked ↔ told = place ∧ ¬ ∃ value, checked = .ok value := by
  cases checked with
  | error problems =>
      simp [placesOf, problemsOf, tells problems rfl]
  | ok value =>
      simp [placesOf, problemsOf]

theorem placesOf_sublist
    (tells : TellsOnlyAt place checked) :
    (placesOf checked).Sublist [place] := by
  cases checked with
  | error problems =>
      rw [placesOf, problemsOf, tells problems rfl]
  | ok value =>
      exact List.nil_sublist _

end TellsOnlyAt

/-! ## Problems of several options -/

/-- Names of options are all different, and without blanks. -/
structure AreOptions
    (names : List String) : Prop where
  distinct : names.Nodup
  plain : ∀ name ∈ names, ' ' ∉ name.toList

/-- A check tells problems with some options only, and the texts of their places are all different
exactly under a condition. -/
structure TellsApart
    (options : List String)
    (checked : Checked α)
    (condition : Prop) : Prop where
  named : ∀ place ∈ placesOf checked, ∃ option ∈ options, ∃ below, place = option :: below
  distinct : AreOptions options → (((placesOf checked).map joinedPlace).Nodup ↔ condition)

theorem AreOptions.ofSublist
    {names options : List String}
    (areOptions : AreOptions options)
    (sublist : names.Sublist options) :
    AreOptions names where
  distinct := sublist.nodup areOptions.distinct
  plain := by
    intro name member
    exact areOptions.plain name (sublist.subset member)

/-- Places with the same text are places of the same option. -/
theorem AreOptions.eq_of_joinedPlace
    {options : List String}
    (areOptions : AreOptions options)
    {option option' : String}
    (member : option ∈ options)
    (member' : option' ∈ options)
    {below below' : List String}
    (sameText : joinedPlace (option :: below) = joinedPlace (option' :: below')) :
    option = option' := by
  have sameWord := congrArg firstWord sameText
  rw [firstWord_joinedPlace (areOptions.plain option member),
    firstWord_joinedPlace (areOptions.plain option' member')] at sameWord
  exact sameWord

namespace TellsApart

variable {options others : List String}
variable {a : Checked α}
variable {b : Checked β}
variable {condition other : Prop}

/-- An option with one place has nothing that it could be mixed up with. -/
theorem ofTellsOnlyAt
    {name : String}
    (tells : TellsOnlyAt [name] a) :
    TellsApart [name] a True where
  named := by
    intro place member
    obtain ⟨isPlace, -⟩ := tells.mem_placesOf_iff.mp member
    exact ⟨name, List.mem_singleton_self name, [], isPlace⟩
  distinct := by
    intro _
    refine iff_of_true ?_ trivial
    exact (tells.placesOf_sublist.map joinedPlace).nodup (List.nodup_singleton _)

theorem congr
    (apart : TellsApart options a condition)
    (same : condition ↔ other) :
    TellsApart options a other where
  named := apart.named
  distinct := by
    intro areOptions
    exact (apart.distinct areOptions).trans same

theorem map
    (apart : TellsApart options a condition)
    (change : α → β) :
    TellsApart options (a.map change) condition where
  named := by
    rw [placesOf_map]
    exact apart.named
  distinct := by
    rw [placesOf_map]
    exact apart.distinct

/-- Problems with different options have places with different texts. -/
theorem both
    (first : TellsApart options a condition)
    (second : TellsApart others b other) :
    TellsApart (options ++ others) (both a b) (condition ∧ other) where
  named := by
    intro place member
    rw [placesOf_both] at member
    rcases List.mem_append.mp member with inFirst | inSecond
    · obtain ⟨option, isOption, isPlace⟩ := first.named place inFirst
      exact ⟨option, List.mem_append_left _ isOption, isPlace⟩
    · obtain ⟨option, isOption, isPlace⟩ := second.named place inSecond
      exact ⟨option, List.mem_append_right _ isOption, isPlace⟩
  distinct := by
    intro areOptions
    have apart :
        ∀ text ∈ (placesOf a).map joinedPlace,
          ∀ text' ∈ (placesOf b).map joinedPlace,
          text ≠ text' := by
      rintro _ inFirst _ inSecond rfl
      obtain ⟨place, member, isText⟩ := List.mem_map.mp inFirst
      obtain ⟨place', member', isText'⟩ := List.mem_map.mp inSecond
      obtain ⟨option, isOption, below, rfl⟩ := first.named place member
      obtain ⟨option', isOther, below', rfl⟩ := second.named place' member'
      have same : option = option' :=
        areOptions.eq_of_joinedPlace (List.mem_append_left _ isOption)
          (List.mem_append_right _ isOther) (isText.trans isText'.symm)
      exact (List.nodup_append.mp areOptions.distinct).2.2 option isOption option' isOther same
    rw [placesOf_both, List.map_append, List.nodup_append,
      first.distinct (areOptions.ofSublist (List.sublist_append_left options others)),
      second.distinct (areOptions.ofSublist (List.sublist_append_right options others))]
    constructor
    · rintro ⟨holds, holdsToo, -⟩
      exact ⟨holds, holdsToo⟩
    · rintro ⟨holds, holdsToo⟩
      exact ⟨holds, holdsToo, apart⟩

/-- An option with one place is added to others. -/
theorem cons
    {name : String}
    (first : TellsOnlyAt [name] a)
    (second : TellsApart others b other) :
    TellsApart (name :: others) (Settings.both a b) other := by
  have together := (ofTellsOnlyAt first).both second
  exact together.congr (iff_of_eq (true_and other))

end TellsApart

end Places

end Tablewright.Settings
