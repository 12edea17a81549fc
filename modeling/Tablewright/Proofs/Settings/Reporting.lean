import Tablewright.Proofs.Settings.Overrides
import Tablewright.Proofs.Settings.Problems
import Tablewright.Proofs.Value.Keyed

/-!
# The report on settings

What is wrong with settings is told in one report, which has an entry for each place. The entries are
found by the texts of the places, and the names of tables are part of these texts as they are. So a
table whose name goes on like the place of a form of another table can displace a problem of that
table. The main statement says that nothing else can.
-/

namespace Tablewright.Settings

open Naming (Inflection Overrides)

/-! ## Places of overrides -/

/-- A form of a table is given, and can be part of a name. -/
def HasForm
    (name : String)
    (forms : List (Value × Value)) : Prop :=
  ∃ given form,
    Value.field? name forms = some given ∧ textOf given = .ok form ∧ IsForm form

/-- An entry of overrides fails at a place: the names lead there from the table. -/
inductive FailsAt : Value × Value → List String → Prop where
  | table
      {key value : Value} :
      (¬ ∃ table, textOf key = .ok table) →
      FailsAt (key, value) ["[key]"]
  | forms
      {key value : Value} :
      (∀ forms, value ≠ .map forms) →
      FailsAt (key, value) []
  | form
      {key : Value}
      {forms : List (Value × Value)}
      {name : String} :
      name ∈ ["singular", "plural"] →
      ¬ HasForm name forms →
      FailsAt (key, .map forms) [name]

/-- A single name that leads from a table to what is wrong is the name of a form. -/
theorem FailsAt.isForm
    {table name : String}
    {value : Value}
    (fails : FailsAt (.text table, value) [name]) :
    name ∈ ["singular", "plural"] := by
  cases fails with
  | table noText =>
      exact absurd ⟨table, rfl⟩ noText
  | form isForm _ =>
      exact isForm

/-- The place in overrides to which names lead from the table of an entry. -/
def placeBelow
    (entry : Value × Value)
    (below : List String) : List String :=
  keyInPlace entry.1 :: below

/-- Two entries of overrides fail at places with the same text. -/
def SharePlace
    (first second : Value × Value) : Prop :=
  ∃ below below',
    FailsAt first below ∧ FailsAt second below' ∧
      joinedPlace (placeBelow first below) = joinedPlace (placeBelow second below')

/-- The form at the end of a place tells where the name of the table ends. -/
theorem eq_of_append_form
    {first second name name' : String}
    (isForm : name ∈ ["singular", "plural"])
    (isForm' : name' ∈ ["singular", "plural"])
    (sameText : first ++ " -> " ++ name = second ++ " -> " ++ name') :
    first = second := by
  have sameLast := congrArg (fun text => text.toList.getLast?) sameText
  simp only [String.toList_append, List.getLast?_append] at sameLast
  -- The two forms differ in their last letters.
  have sameForm : name = name' := by
    simp only [List.mem_cons, List.not_mem_nil, or_false] at isForm isForm'
    rcases isForm with rfl | rfl <;> rcases isForm' with rfl | rfl
    · rfl
    · cases sameLast
    · cases sameLast
    · rfl
  rw [sameForm, String.append_left_inj, String.append_left_inj] at sameText
  exact sameText

/-- Two tables with different names fail at places with the same text exactly when one has no forms,
and its name goes on behind that of the other like the place of a form that fails. -/
theorem sharePlace_iff_of_texts
    {first second : String}
    (different : first ≠ second)
    (value other : Value) :
    SharePlace (.text first, value) (.text second, other) ↔
      ∃ name,
        (first = second ++ " -> " ++ name ∧
          FailsAt (.text first, value) [] ∧ FailsAt (.text second, other) [name]) ∨
        (second = first ++ " -> " ++ name ∧
          FailsAt (.text first, value) [name] ∧ FailsAt (.text second, other) []) := by
  constructor
  · rintro ⟨below, below', fails, fails', sameText⟩
    cases fails with
    | table noText =>
        exact absurd ⟨first, rfl⟩ noText
    | forms noForms =>
        cases fails' with
        | table noText =>
            exact absurd ⟨second, rfl⟩ noText
        | forms noForms' =>
            exact absurd sameText different
        | form isName noForm =>
            exact ⟨_, Or.inl ⟨sameText, .forms noForms, .form isName noForm⟩⟩
    | form isName noForm =>
        cases fails' with
        | table noText =>
            exact absurd ⟨second, rfl⟩ noText
        | forms noForms =>
            exact ⟨_, Or.inr ⟨sameText.symm, .form isName noForm, .forms noForms⟩⟩
        | form isName' noForm' =>
            exact absurd (eq_of_append_form isName isName' sameText) different
  · rintro ⟨name, ⟨rfl, noForms, noForm⟩ | ⟨rfl, noForm, noForms⟩⟩
    · exact ⟨[], [name], noForms, noForm, rfl⟩
    · exact ⟨[name], [], noForm, noForms, rfl⟩

/-! ## Problems of overrides -/

section Overrides

variable {place told : List String}

theorem exists_misfitting_iff
    {α : Type}
    {result : Except ScalarFault α} :
    (∃ value, misfitting place result = .ok value) ↔ ∃ value, result = .ok value := by
  cases result <;> simp [problem]

theorem exists_checkForm_iff
    {name : String}
    {forms : List (Value × Value)} :
    (∃ form, checkForm place name forms = .ok form) ↔ HasForm name forms := by
  simp only [checkForm_eq_ok_iff, HasForm]
  exact exists_comm

theorem TellsOnlyAt.checkForm
    (name : String)
    (forms : List (Value × Value)) :
    TellsOnlyAt (place ++ [name]) (checkForm place name forms) := by
  unfold Settings.checkForm
  dsimp only
  split
  · exact TellsOnlyAt.problem _
  · exact TellsOnlyAt.checkText _ _

theorem placesOf_checkForms_map
    (forms : List (Value × Value)) :
    placesOf (checkForms place (.map forms)) =
      placesOf (checkForm place "singular" forms) ++ placesOf (checkForm place "plural" forms) := by
  rw [checkForms, placesOf_map, placesOf_both]

theorem placesOf_checkForms_of_not_map
    {value : Value}
    (noForms : ∀ forms, value ≠ .map forms) :
    placesOf (checkForms place value) = [place] := by
  unfold checkForms
  split
  · exact absurd rfl (noForms _)
  · rfl

/-- What comes of an entry of overrides. -/
def checkOverride
    (place : List String)
    (entry : Value × Value) : Checked (String × Inflection) :=
  let here := place ++ [keyInPlace entry.1]
  both (misfitting (here ++ ["[key]"]) (textOf entry.1)) (checkForms here entry.2)

/-- What is wrong with overrides is what is wrong with each entry. -/
theorem placesOf_checkOverrideEntries
    (checked : Checked Overrides)
    (entries : List (Value × Value)) :
    placesOf (checkOverrideEntries place checked entries) =
      placesOf checked ++ entries.flatMap fun entry => placesOf (checkOverride place entry) := by
  induction entries generalizing checked with
  | nil =>
      rw [List.flatMap_nil, List.append_nil]
      rfl
  | cons entry rest inductionHypothesis =>
      obtain ⟨key, value⟩ := entry
      rw [checkOverrideEntries, inductionHypothesis, placesOf_map, placesOf_both,
        List.flatMap_cons, List.append_assoc]
      rfl

/-- The places at which a check of an entry tells problems are those at which the entry fails. -/
theorem mem_placesOf_checkOverride_iff
    {entry : Value × Value} :
    told ∈ placesOf (checkOverride place entry) ↔
      ∃ below, FailsAt entry below ∧ told = place ++ placeBelow entry below := by
  obtain ⟨key, value⟩ := entry
  have isPlace (below : List String) :
      place ++ placeBelow (key, value) below = place ++ [keyInPlace key] ++ below := by
    rw [placeBelow, List.append_assoc]
    rfl
  have inForm {name : String} {forms : List (Value × Value)} :
      told ∈ placesOf (checkForm (place ++ [keyInPlace key]) name forms) ↔
        told = place ++ [keyInPlace key] ++ [name] ∧ ¬ HasForm name forms := by
    rw [(TellsOnlyAt.checkForm name forms).mem_placesOf_iff, exists_checkForm_iff]
  rw [checkOverride, placesOf_both, List.mem_append, (TellsOnlyAt.misfitting _).mem_placesOf_iff,
    exists_misfitting_iff]
  simp only [isPlace]
  constructor
  · rintro (⟨isTold, noText⟩ | inForms)
    · exact ⟨["[key]"], .table noText, isTold⟩
    · by_cases isMap : ∃ forms, value = .map forms
      · obtain ⟨forms, rfl⟩ := isMap
        rw [placesOf_checkForms_map, List.mem_append, inForm, inForm] at inForms
        rcases inForms with ⟨isTold, noForm⟩ | ⟨isTold, noForm⟩
        · exact ⟨["singular"], .form (by simp) noForm, isTold⟩
        · exact ⟨["plural"], .form (by simp) noForm, isTold⟩
      · have noForms : ∀ forms, value ≠ .map forms :=
          not_exists.mp isMap
        rw [placesOf_checkForms_of_not_map noForms] at inForms
        exact ⟨[], .forms noForms, by simpa using inForms⟩
  · rintro ⟨below, fails, isTold⟩
    cases fails with
    | table noText =>
        exact Or.inl ⟨isTold, noText⟩
    | forms noForms =>
        rw [placesOf_checkForms_of_not_map noForms]
        exact Or.inr (by simpa using isTold)
    | form isName noForm =>
        rw [placesOf_checkForms_map, List.mem_append, inForm, inForm]
        rcases List.mem_pair.mp isName with rfl | rfl
        · exact Or.inr (Or.inl ⟨isTold, noForm⟩)
        · exact Or.inr (Or.inr ⟨isTold, noForm⟩)

/-- The names that can lead from a table to what is wrong with its entry. -/
def failingNames : List (List String) :=
  [["[key]"], [], ["singular"], ["plural"]]

theorem placesOf_checkForms_sublist
    (value : Value) :
    (placesOf (checkForms place value)).Sublist
      [place, place ++ ["singular"], place ++ ["plural"]] := by
  by_cases isMap : ∃ forms, value = .map forms
  · obtain ⟨forms, rfl⟩ := isMap
    rw [placesOf_checkForms_map]
    exact ((TellsOnlyAt.checkForm "singular" forms).placesOf_sublist.append
      (TellsOnlyAt.checkForm "plural" forms).placesOf_sublist).cons place
  · rw [placesOf_checkForms_of_not_map (not_exists.mp isMap)]
    exact List.singleton_sublist.mpr List.mem_cons_self

theorem placesOf_checkOverride_sublist
    (entry : Value × Value) :
    (placesOf (checkOverride place entry)).Sublist
      (failingNames.map (place ++ [keyInPlace entry.1] ++ ·)) := by
  have isTableOrForms :
      failingNames.map (place ++ [keyInPlace entry.1] ++ ·) =
        [place ++ [keyInPlace entry.1] ++ ["[key]"]] ++
          [place ++ [keyInPlace entry.1], place ++ [keyInPlace entry.1] ++ ["singular"],
            place ++ [keyInPlace entry.1] ++ ["plural"]] := by
    simp [failingNames]
  rw [checkOverride, placesOf_both, isTableOrForms]
  exact (TellsOnlyAt.misfitting (textOf entry.1)).placesOf_sublist.append
    (placesOf_checkForms_sublist entry.2)

/-- The problems of an entry of overrides have places with different texts. -/
theorem nodup_placesOf_checkOverride
    (option : String)
    (entry : Value × Value) :
    ((placesOf (checkOverride [option] entry)).map joinedPlace).Nodup := by
  apply ((placesOf_checkOverride_sublist entry).map joinedPlace).nodup
  have texts :
      (failingNames.map ([option] ++ [keyInPlace entry.1] ++ ·)).map joinedPlace =
        (failingNames.map fun below => String.join (below.map (" -> " ++ ·))).map
          (joinedPlace [option, keyInPlace entry.1] ++ ·) := by
    rw [List.map_map, List.map_map]
    apply List.map_congr_left
    intro below _
    exact joinedPlace_append option [keyInPlace entry.1] below
  have different :
      (failingNames.map fun below => String.join (below.map (" -> " ++ ·))).Nodup := by
    decide +kernel
  rw [texts]
  refine different.map ?_
  intro first second sameText
  exact (String.append_right_inj _).mp sameText

/-- Entries of overrides have no common text of a place exactly when they share no place. -/
theorem disjoint_placesOf_checkOverride_iff
    (option : String)
    (first second : Value × Value) :
    List.Disjoint ((placesOf (checkOverride [option] first)).map joinedPlace)
        ((placesOf (checkOverride [option] second)).map joinedPlace) ↔
      ¬ SharePlace first second := by
  have isText {entry : Value × Value} {text : String} :
      text ∈ (placesOf (checkOverride [option] entry)).map joinedPlace ↔
        ∃ below,
          FailsAt entry below ∧
            text = option ++ " -> " ++ joinedPlace (placeBelow entry below) := by
    simp only [List.mem_map, mem_placesOf_checkOverride_iff]
    constructor
    · rintro ⟨_, ⟨below, fails, rfl⟩, rfl⟩
      exact ⟨below, fails, String.intercalate_cons_cons⟩
    · rintro ⟨below, fails, rfl⟩
      exact ⟨_, ⟨below, fails, rfl⟩, String.intercalate_cons_cons⟩
  rw [List.disjoint_left]
  constructor
  · rintro apart ⟨below, below', fails, fails', sameText⟩
    apply apart (isText.mpr ⟨below, fails, rfl⟩)
    exact isText.mpr ⟨below', fails', by rw [sameText]⟩
  · intro noPlace text inFirst inSecond
    obtain ⟨below, fails, isFirst⟩ := isText.mp inFirst
    obtain ⟨below', fails', isSecond⟩ := isText.mp inSecond
    refine noPlace ⟨below, below', fails, fails', ?_⟩
    exact (String.append_right_inj _).mp (isFirst.symm.trans isSecond)

end Overrides

/-! ## Problems of all options -/

/-- The entries of the overrides in a mapping of options. -/
def overrideEntries
    (entries : List (Value × Value)) : List (Value × Value) :=
  match Value.field? "plural_overrides" entries with
  | some (.map overrides) => overrides
  | _ => []

/-- The problems of overrides are told apart exactly when no two of the entries share a place. -/
theorem tellsApart_checkOverrideEntries
    (entries : List (Value × Value)) :
    TellsApart ["plural_overrides"] (checkOverrideEntries ["plural_overrides"] (.ok []) entries)
      (entries.Pairwise fun first second => ¬ SharePlace first second) where
  named := by
    intro place member
    rw [placesOf_checkOverrideEntries] at member
    rcases List.mem_append.mp member with inNone | inSome
    · cases inNone
    · obtain ⟨entry, -, inEntry⟩ := List.mem_flatMap.mp inSome
      obtain ⟨below, -, rfl⟩ := mem_placesOf_checkOverride_iff.mp inEntry
      exact ⟨_, List.mem_singleton_self _, placeBelow entry below, rfl⟩
  distinct := by
    intro _
    rw [placesOf_checkOverrideEntries, List.map_append, List.map_flatMap]
    have nothing : placesOf (.ok [] : Checked Overrides) = [] := rfl
    rw [nothing, List.map_nil, List.nil_append, List.nodup_flatMap]
    constructor
    · rintro ⟨-, apart⟩
      exact apart.imp (disjoint_placesOf_checkOverride_iff _ _ _).mp
    · intro noPlaces
      refine ⟨fun entry _ => nodup_placesOf_checkOverride _ entry, ?_⟩
      exact noPlaces.imp (disjoint_placesOf_checkOverride_iff _ _ _).mpr

/-- The problems of the overrides of a mapping are told apart exactly when no two of the entries share
a place. -/
theorem tellsApart_overrides
    (entries : List (Value × Value)) :
    TellsApart ["plural_overrides"]
      (checkOption entries "plural_overrides" standard.pluralOverrides checkOverrides)
      ((overrideEntries entries).Pairwise fun first second => ¬ SharePlace first second) := by
  have nothingToShare
      {checked : Checked Overrides}
      (tells : TellsOnlyAt ["plural_overrides"] checked) :
      TellsApart ["plural_overrides"] checked
        (([] : List (Value × Value)).Pairwise fun first second => ¬ SharePlace first second) :=
    (TellsApart.ofTellsOnlyAt tells).congr (iff_of_true trivial List.Pairwise.nil)
  unfold checkOption overrideEntries
  cases Value.field? "plural_overrides" entries with
  | none =>
      exact nothingToShare (TellsOnlyAt.ok _)
  | some value =>
      cases value with
      | map overrides =>
          exact tellsApart_checkOverrideEntries overrides
      | null | bool _ | int _ | float _ | text _ | bytes _ | date _ | moment _ | pair _ _ | list _
      | set _ | enclosing _ =>
          exact nothingToShare (TellsOnlyAt.problem _)

/-- The problems of a mapping are told apart exactly when no two of the entries of its overrides share
a place. -/
theorem tellsApart_of_ofEntries
    {entries : List (Value × Value)}
    {checked : Checked Settings}
    (made : ofEntries entries = .ok checked) :
    TellsApart (standard.fields.map Prod.fst) checked
      ((overrideEntries entries).Pairwise fun first second => ¬ SharePlace first second) := by
  unfold ofEntries at made
  cases included : checkTablesOption entries "include_tables" with
  | error interruption =>
      simp [included, bind, Except.bind] at made
  | ok includeTables =>
      cases excluded : checkTablesOption entries "exclude_tables" with
      | error interruption =>
          simp [included, excluded, bind, Except.bind] at made
      | ok excludeTables =>
          simp only [included, excluded, bind, Except.bind, pure, Except.pure,
            Except.ok.injEq] at made
          subst made
          refine TellsApart.map ?_ _
          refine .cons (.checkOption (.checkText _) _ _) ?_
          refine .cons (.checkOption (.checkText _) _ _) ?_
          refine .cons (.checkOption (.checkText _) _ _) ?_
          refine .cons (.checkOption (.checkChoice _ _) _ _) ?_
          refine .cons (.checkOption (.checkChoice _ _) _ _) ?_
          refine ((tellsApart_overrides entries).both ?_).congr (and_iff_left trivial)
          refine .cons (.checkTablesOption included) ?_
          refine .cons (.checkTablesOption excluded) ?_
          refine .cons (.checkOption .checkTimeout _ _) ?_
          exact .ofTellsOnlyAt (.checkOption (fun _ => .misfitting _) _ _)

/-! ## The report -/

/-- The entry of a problem in a report. -/
def Problem.entry
    (problem : Problem) : String × Value :=
  (problem.placeText, .text problem.message)

/-- The entry of the file that settings come from, if one is named. -/
def fileEntries
    (file? : Option String) : List (String × Value) :=
  match file? with
  | some file => if file = "" then [] else [("config_file", .text file)]
  | none => []

/-- A report lists problems: each has an entry of its own, in their order, and the file comes last. -/
structure ListsProblems
    (file? : Option String)
    (problems : List Problem)
    (told : Report) : Prop where
  context : told.context = problems.map Problem.entry ++ fileEntries file?
  distinct : (Keyed.keys told.context).Nodup

theorem setContext_eq_keyedSet
    (key : String)
    (value : Value)
    (context : List (String × Value)) :
    Report.setContext key value context = Keyed.set key value context := by
  induction context with
  | nil =>
      rfl
  | cons entry rest inductionHypothesis =>
      rw [Report.setContext, Keyed.set, inductionHypothesis]

/-- The entries of a report are set one after another. -/
theorem context_problemReport
    (file? : Option String)
    (problems : List Problem) :
    (problemReport file? problems).context =
      Keyed.setAll [] (problems.map Problem.entry ++ fileEntries file?) := by
  have ofProblems : problemContext problems = Keyed.setAll [] (problems.map Problem.entry) := by
    rw [problemContext, Keyed.setAll, List.foldl_map]
    simp only [setContext_eq_keyedSet]
    rfl
  rw [Keyed.setAll_append, ← ofProblems]
  unfold problemReport Report.make Report.withPlace fileEntries
  cases file? with
  | none =>
      rfl
  | some file =>
      dsimp only [ReportKind.place?]
      split
      · rfl
      · exact setContext_eq_keyedSet _ _ _

/-- The report on problems lists them exactly when their places have different texts, of which none is
the key of the file. -/
theorem listsProblems_problemReport_iff
    {file? : Option String}
    {problems : List Problem} :
    ListsProblems file? problems (problemReport file? problems) ↔
      (problems.map Problem.placeText ++ Keyed.keys (fileEntries file?)).Nodup := by
  have isKeys :
      problems.map Problem.placeText ++ Keyed.keys (fileEntries file?) =
        Keyed.keys (problems.map Problem.entry ++ fileEntries file?) := by
    rw [Keyed.keys, Keyed.keys, List.map_append, List.map_map]
    rfl
  rw [isKeys, ← Keyed.setAll_nil_eq_iff, ← context_problemReport]
  constructor
  · exact ListsProblems.context
  · intro context
    refine ⟨context, ?_⟩
    rw [context_problemReport]
    exact Keyed.nodup_keys_setAll List.nodup_nil

theorem keys_fileEntries_sublist
    (file? : Option String) :
    (Keyed.keys (fileEntries file?)).Sublist ["config_file"] := by
  unfold fileEntries
  split
  · split
    · exact List.nil_sublist _
    · exact List.Sublist.refl _
  · exact List.nil_sublist _

theorem placeText_eq_joinedPlace
    {problem : Problem}
    (nonempty : problem.place ≠ []) :
    problem.placeText = joinedPlace problem.place := by
  unfold Problem.placeText
  split
  · next isEmpty =>
      exact absurd isEmpty nonempty
  · rfl

/-- Problems with options, none of which has the key of the file, are listed exactly when they are told
apart. -/
theorem TellsApart.listsProblems_iff
    {options : List String}
    {problems : List Problem}
    {condition : Prop}
    (apart : TellsApart options (.error problems : Checked Settings) condition)
    (areOptions : AreOptions ("config_file" :: options))
    (file? : Option String) :
    ListsProblems file? problems (problemReport file? problems) ↔ condition := by
  have named (problem : Problem) (member : problem ∈ problems) :
      ∃ option ∈ options, ∃ below, problem.place = option :: below :=
    apart.named problem.place (List.mem_map_of_mem member)
  have isText (problem : Problem) (member : problem ∈ problems) :
      problem.placeText = joinedPlace problem.place := by
    obtain ⟨option, -, below, isPlace⟩ := named problem member
    exact placeText_eq_joinedPlace (by simp [isPlace])
  have texts :
      problems.map Problem.placeText =
        (placesOf (.error problems : Checked Settings)).map joinedPlace := by
    rw [placesOf, problemsOf, List.map_map]
    exact List.map_congr_left isText
  have isNoFile :
      ∀ text ∈ problems.map Problem.placeText,
        ∀ key ∈ Keyed.keys (fileEntries file?),
        text ≠ key := by
    rintro _ inProblems key isKey rfl
    obtain ⟨problem, member, isKeyToo⟩ := List.mem_map.mp inProblems
    obtain ⟨option, isOption, below, isPlace⟩ := named problem member
    have isFile := List.mem_singleton.mp ((keys_fileEntries_sublist file?).subset isKey)
    have sameText : joinedPlace (option :: below) = joinedPlace ["config_file"] := by
      rw [← isPlace, ← isText problem member, isKeyToo, isFile]
      rfl
    have same : option = "config_file" :=
      areOptions.eq_of_joinedPlace (List.mem_cons_of_mem _ isOption) List.mem_cons_self sameText
    rw [same] at isOption
    exact (List.nodup_cons.mp areOptions.distinct).1 isOption
  rw [listsProblems_problemReport_iff,
    ← apart.distinct (areOptions.ofSublist (List.sublist_cons_self _ options)), ← texts,
    List.nodup_append]
  constructor
  · exact And.left
  · intro distinct
    exact ⟨distinct, (keys_fileEntries_sublist file?).nodup (List.nodup_singleton _), isNoFile⟩

/-- The key of the file and the names of all options. -/
theorem areOptions_of_report :
    AreOptions ("config_file" :: standard.fields.map Prod.fst) where
  distinct := by decide
  plain := by decide

/-- A report on settings lists all that is wrong with them exactly when no two entries of the overrides
fail at places with the same text. -/
theorem report_listsProblems_iff
    {file? : Option String}
    {entries : List (Value × Value)}
    {told : Report}
    (refused : validate file? (.map entries) = .error (.report told)) :
    ∃ problems,
      ofEntries entries = .ok (.error problems) ∧
      told.kind = .configuration ∧
      (ListsProblems file? problems told ↔
        (overrideEntries entries).Pairwise fun first second => ¬ SharePlace first second) := by
  rw [validate, ofValue] at refused
  cases made : ofEntries entries with
  | error interruption =>
      rw [made] at refused
      cases refused
  | ok checked =>
      rw [made] at refused
      cases checked with
      | ok settings =>
          cases refused
      | error problems =>
          cases refused
          refine ⟨problems, rfl, rfl, ?_⟩
          exact (tellsApart_of_ofEntries made).listsProblems_iff areOptions_of_report file?

/-- A class with a reserved name, a table without its singular form and one without any are all listed,
before the file. -/
theorem report_listsProblems_iff_of_three_options :
    ∃ told problems,
      validate (some "generator.yaml")
          (.map
            [(.text "plural_overrides",
                .map
                  [(.text "a", .map [(.text "plural", .text "As")]), (.text "a -> title", .int 5)]),
              (.text "class_name", .text "class")]) =
        .error (.report told) ∧
      problems.map Problem.place =
        [["class_name"], ["plural_overrides", "a", "singular"],
          ["plural_overrides", "a -> title"]] ∧
      ListsProblems (some "generator.yaml") problems told := by
  let table : Value × Value := (.text "a", .map [(.text "plural", .text "As")])
  let longer : Value × Value := (.text "a -> title", .int 5)
  have apart : ¬ SharePlace table longer := by
    rw [sharePlace_iff_of_texts (by decide)]
    rintro ⟨name, ⟨goesOn, -, -⟩ | ⟨goesOn, noForm, -⟩⟩
    · have sameLength := congrArg String.length goesOn
      rw [String.length_append, String.length_append] at sameLength
      have shorter : "a".length < "a -> title".length := by decide
      omega
    · have split : "a -> title" = "a" ++ " -> " ++ "title" := by decide
      rw [split, String.append_right_inj] at goesOn
      subst goesOn
      exact absurd noForm.isForm (by decide)
  obtain ⟨told, refused⟩ :
      ∃ told,
        validate (some "generator.yaml")
            (.map
              [(.text "plural_overrides", .map [table, longer]),
                (.text "class_name", .text "class")]) =
          .error (.report told) :=
    ⟨_, rfl⟩
  obtain ⟨problems, made, -, lists⟩ := report_listsProblems_iff refused
  refine ⟨told, problems, refused, ?_, lists.mpr (List.pairwise_pair.mpr apart)⟩
  cases made
  rfl

/-- A table whose name goes on like the place of a form of another table displaces its problem. -/
theorem report_loses_problem_of_arrow :
    ∃ told problems,
      validate none
          (.map
            [(.text "plural_overrides",
              .map
                [(.text "a", .map [(.text "plural", .text "As")]),
                  (.text "a -> singular", .int 5)])]) =
        .error (.report told) ∧
      ofEntries
          [(.text "plural_overrides",
            .map
              [(.text "a", .map [(.text "plural", .text "As")]),
                (.text "a -> singular", .int 5)])] =
        .ok (.error problems) ∧
      problems =
        [⟨["plural_overrides", "a", "singular"], "Field required"⟩,
          ⟨["plural_overrides", "a -> singular"],
            "Input should be a valid dictionary or instance of PluralOverride"⟩] ∧
      told.context =
        [("plural_overrides -> a -> singular",
          .text "Input should be a valid dictionary or instance of PluralOverride")] ∧
      ¬ ListsProblems none problems told := by
  refine ⟨_, _, rfl, rfl, rfl, rfl, ?_⟩
  intro lists
  exact absurd (congrArg List.length lists.context) (by decide)

end Tablewright.Settings
