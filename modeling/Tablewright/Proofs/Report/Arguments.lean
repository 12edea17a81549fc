import Tablewright.Proofs.Calls.Binding
import Tablewright.Proofs.Value.Entries
import Tablewright.Report.Arguments

/-!
# Reports that arguments make

Every kind of failure with a place takes the same arguments besides its message: the place, a context
and suggestions, each of which may be left out or be none. The place is entered into the context
before anything is made of a context that is none. So a report is made of all such arguments but
those that name a place together with a context that is none.
-/

namespace Tablewright

open Calls (Arguments Bound valuesOf)

/-- What is passed for an argument that may be left out or be none. -/
inductive Passed (α : Type) where
  | absent
  | none
  | given (value : α)

/-- The value that is passed for an argument, if it is not left out. -/
def Passed.value?
    {α : Type}
    (toValue : α → Value) : Passed α → Option Value
  | .absent => Option.none
  | .none => some .null
  | .given value => some (toValue value)

/-- What a report is to be made of. -/
structure Particulars where
  message : String
  place : Passed String
  context : Passed (List (Value × Value))
  suggestions : Passed (List String)

namespace Particulars

/-- The place, if one is named. -/
def placeText?
    (particulars : Particulars) : Option String :=
  match particulars.place with
  | .given text => if text = "" then none else some text
  | _ => none

/-- The place as a value; one that is left out is none. -/
def placeValue
    (particulars : Particulars) : Value :=
  (particulars.place.value? Value.text).getD .null

/-- The context as a value; one that is left out is empty, but one that is none is not. -/
def contextValue
    (particulars : Particulars) : Value :=
  (particulars.context.value? Value.map).getD (.map [])

/-- The entries of the context. -/
def entries
    (particulars : Particulars) : List (Value × Value) :=
  match particulars.context with
  | .given entries => entries
  | _ => []

/-- The suggestions that are given. -/
def suggestionTexts
    (particulars : Particulars) : List String :=
  match particulars.suggestions with
  | .given texts => texts
  | _ => []

/-- Entries are those of the context with the place, if one is named, entered under its name. -/
def Holds
    (particulars : Particulars)
    (placeName : String)
    (held : List (Value × Value)) : Prop :=
  match particulars.placeText? with
  | some text => Value.IsEntered (.text placeName) (.text text) particulars.entries held
  | none => held = particulars.entries

end Particulars

namespace Report

/-- A call passes particulars to make a report of a kind, in whatever way: message and place by
position or by name, context and suggestions by name, and anything else besides. -/
structure Passes
    (kind : ReportKind)
    (placeName : String)
    (particulars : Particulars)
    (arguments : Arguments) : Prop where
  positions : arguments.positional.length ≤ 2
  self : valuesOf (Calls.filling kind.callee arguments) "self" = [.null]
  message :
    valuesOf (Calls.filling kind.callee arguments) "message" = [.text particulars.message]
  place :
    valuesOf (Calls.filling kind.callee arguments) placeName =
      (particulars.place.value? Value.text).toList
  context :
    valuesOf arguments.named "context" = (particulars.context.value? Value.map).toList
  suggestions :
    valuesOf arguments.named "suggestions" =
      (particulars.suggestions.value? fun texts => .list (texts.map Value.text)).toList

/-- What a call is bound to carries particulars. -/
structure Carries
    (placeName : String)
    (particulars : Particulars)
    (bound : Bound) : Prop where
  message : bound.get "message" = .text particulars.message
  place : bound.get placeName = particulars.placeValue
  context : bound.others.lookup "context" = particulars.context.value? Value.map
  suggestions :
    bound.others.lookup "suggestions" =
      particulars.suggestions.value? fun texts => .list (texts.map Value.text)

/-- The entries of a context as a report shows them. -/
def shownEntries
    (entries : List (Value × Value)) : List (String × Value) :=
  entries.map fun (key, value) => (key.display, value)

/-- The lines that list the entries of a context, under a heading. -/
def contextLines
    (context : List (String × Value)) : List String :=
  if context = [] then []
  else "Context:" :: context.map fun (key, value) => "  " ++ key ++ ": " ++ value.display

/-- A report of particulars. It has the entries of the context with the place among them, and the
suggestions that are given or else those of its kind. Its text lists all of them in order. -/
structure IsOf
    (kind : ReportKind)
    (placeName : String)
    (particulars : Particulars)
    (report : Report) : Prop where
  ofKind : report.kind = kind
  ofMessage : report.message = particulars.message
  ofContext :
    ∃ held, particulars.Holds placeName held ∧ report.context = shownEntries held
  ofSuggestions :
    report.suggestions =
      if particulars.suggestionTexts = [] then kind.suggestions else particulars.suggestionTexts
  rendered :
    ∃ code,
      kind.code? = some code ∧ report.code = some code ∧
        report.render =
          String.intercalate "\n"
            ([particulars.message, "Error Code: " ++ code] ++ contextLines report.context ++
              "Suggestions:" :: report.suggestions.map fun suggestion => "  • " ++ suggestion)

/-! ## Binding -/

section Binding

variable {kind : ReportKind}
variable {placeName : String}
variable {particulars : Particulars}
variable {arguments : Arguments}

/-- A kind with a place takes the message and the place, and keeps what else is passed by name. -/
theorem callee_of_place
    (placed : kind.place? = some placeName) :
    kind.callee.slots = [⟨"message", none⟩, ReportKind.optional placeName] ∧
      kind.callee.acceptsOthers = true := by
  simp [ReportKind.callee, Calls.Callee.slots, placed]

theorem slotNames_of_place
    (placed : kind.place? = some placeName) :
    "self" :: kind.callee.slotNames = ["self", "message", placeName] := by
  rw [Calls.Callee.slotNames, (callee_of_place placed).1]
  rfl

/-- No place is called like another argument. -/
theorem placeName_notMem
    (placed : kind.place? = some placeName) :
    placeName ∉ ["self", "message", "context", "suggestions"] := by
  cases kind <;> cases placed <;> decide

/-- Particulars fill the parameters that they are passed for. -/
theorem Passes.filled
    (passes : Passes kind placeName particulars arguments) :
    (Calls.filling kind.callee arguments).lookup "message" = some (.text particulars.message) ∧
      (Calls.filling kind.callee arguments).lookup placeName =
        particulars.place.value? Value.text := by
  rw [Calls.lookup_eq_head?_valuesOf, Calls.lookup_eq_head?_valuesOf, passes.message, passes.place,
    Option.head?_toList]
  exact ⟨rfl, rfl⟩

/-- What is passed is bound; what is no parameter is kept. -/
theorem Passes.bind_eq
    (passes : Passes kind placeName particulars arguments)
    (placed : kind.place? = some placeName) :
    Calls.bind kind.callee arguments =
      .ok
        ⟨[("message", .text particulars.message), (placeName, particulars.placeValue)],
          arguments.named.filter fun entry => entry.1 ∉ ["self", "message", placeName]⟩ := by
  obtain ⟨slots, keepsOthers⟩ := callee_of_place placed
  obtain ⟨messageFilled, placeFilled⟩ := passes.filled
  have names := slotNames_of_place placed
  have fewPositions : arguments.positional.length ≤ kind.callee.positional.length := by
    have two : kind.callee.positional.length = 2 := by
      simp [ReportKind.callee, placed]
    exact two ▸ passes.positions
  have once :
      ∀ name ∈ "self" :: kind.callee.slotNames,
        (valuesOf (Calls.filling kind.callee arguments) name).length ≤ 1 := by
    have atMostOne := Option.length_toList_le (o := particulars.place.value? Value.text)
    simp [names, passes.self, passes.message, passes.place, atMostOne]
  have complete :
      ∀ slot ∈ kind.callee.slots, slot.IsSettled (Calls.filling kind.callee arguments) := by
    have messageSettled : "message" ∈ (Calls.filling kind.callee arguments).map Prod.fst := by
      rw [← Calls.isSome_lookup_iff, messageFilled, Option.isSome_some]
    rw [slots, List.forall_mem_cons, List.forall_mem_singleton]
    exact ⟨.inl messageSettled, .inr rfl⟩
  have bindsSlots := Calls.bind_of_acceptsOthers keepsOthers fewPositions once complete
  have placeValue :
      (ReportKind.optional placeName).value (Calls.filling kind.callee arguments) =
        particulars.placeValue := by
    rw [Calls.Slot.value, ReportKind.optional, placeFilled, Particulars.placeValue]
    cases particulars.place <;> rfl
  simp only [names, slots, List.map_cons, List.map_nil, placeValue] at bindsSlots
  simp only [Calls.Slot.value, messageFilled] at bindsSlots
  exact bindsSlots

/-- A call that passes particulars is bound to what carries them. -/
theorem Passes.exists_bound
    (passes : Passes kind placeName particulars arguments)
    (placed : kind.place? = some placeName) :
    ∃ bound,
      Calls.bind kind.callee arguments = .ok bound ∧ Carries placeName particulars bound := by
  have names := slotNames_of_place placed
  have apart := placeName_notMem placed
  simp only [List.mem_cons, List.not_mem_nil, or_false, not_or] at apart
  obtain ⟨-, notMessage, notContext, notSuggestions⟩ := apart
  refine ⟨_, passes.bind_eq placed, rfl, ?_, ?_, ?_⟩
  · simp [Bound.get, List.lookup_cons, beq_eq_false_iff_ne.mpr notMessage]
  · rw [← names, Calls.lookup_unknown (by simp [names, Ne.symm notContext]),
      Calls.lookup_eq_head?_valuesOf, passes.context, Option.head?_toList]
  · rw [← names, Calls.lookup_unknown (by simp [names, Ne.symm notSuggestions]),
      Calls.lookup_eq_head?_valuesOf, passes.suggestions, Option.head?_toList]

end Binding

/-! ## Context, place and suggestions -/

theorem contextOf_map
    (entries : List (Value × Value)) :
    contextOf (.map entries) = .ok (shownEntries entries) := by
  cases entries <;> rfl

theorem suggestionsOf_texts
    (texts : List String) :
    suggestionsOf (.list (texts.map Value.text)) = .ok texts := by
  have shown : (texts.map Value.text).map Value.display = texts := by
    rw [List.map_map]
    exact List.map_id texts
  cases texts with
  | nil =>
      rfl
  | cons first rest =>
      exact congrArg Except.ok shown

variable {particulars : Particulars}

/-- Suggestions that are left out or are none are no suggestions. -/
theorem suggestionsOf_passed
    (particulars : Particulars) :
    suggestionsOf
        ((particulars.suggestions.value? fun texts => .list (texts.map Value.text)).getD .null) =
      .ok particulars.suggestionTexts := by
  unfold Particulars.suggestionTexts
  cases particulars.suggestions with
  | absent | none =>
      rfl
  | given texts =>
      exact suggestionsOf_texts texts

/-- Only a place that is named counts as true. -/
theorem isTruthy_place
    (particulars : Particulars) :
    particulars.placeValue.isTruthy = particulars.placeText?.isSome := by
  unfold Particulars.placeValue Particulars.placeText?
  cases particulars.place with
  | absent | none =>
      rfl
  | given text =>
      by_cases isEmpty : text = "" <;> simp [Passed.value?, Value.isTruthy, isEmpty]

theorem place_eq_of_named
    {text : String}
    (named : particulars.placeText? = some text) :
    particulars.placeValue = .text text := by
  unfold Particulars.placeText? at named
  unfold Particulars.placeValue
  cases passed : particulars.place with
  | absent | none =>
      simp [passed] at named
  | given given =>
      simp only [passed, Option.ite_none_left_eq_some, Option.some.injEq] at named
      rw [← named.2]
      rfl

theorem contextValue_of_none
    (isNone : particulars.context = .none) :
    particulars.contextValue = .null := by
  rw [Particulars.contextValue, isNone]
  rfl

/-- A context that is left out is an empty mapping. -/
theorem contextValue_of_mapping
    (isMapping : particulars.context ≠ .none) :
    particulars.contextValue = .map particulars.entries := by
  unfold Particulars.contextValue Particulars.entries
  cases passed : particulars.context with
  | absent | given _ =>
      rfl
  | none =>
      exact absurd passed isMapping

/-- A place that is not named leaves the context as it is. -/
theorem enterPlace_of_unnamed
    (unnamed : particulars.placeText? = none)
    (placeName : String)
    (context : Value) :
    enterPlace placeName particulars.placeValue context = .ok context := by
  unfold enterPlace
  rw [isTruthy_place, unnamed]
  rfl

/-- A context that is not none gets the place that is named. -/
theorem exists_enterPlace
    (isMapping : particulars.context ≠ .none)
    (placeName : String) :
    ∃ held,
      enterPlace placeName particulars.placeValue particulars.contextValue = .ok (.map held) ∧
        particulars.Holds placeName held := by
  unfold Particulars.Holds
  rw [contextValue_of_mapping isMapping]
  cases named : particulars.placeText? with
  | none =>
      exact ⟨_, enterPlace_of_unnamed named placeName _, rfl⟩
  | some text =>
      refine ⟨_, ?_, Value.isEntered_setEntry placeName (.text text) particulars.entries⟩
      unfold enterPlace
      rw [isTruthy_place, named, place_eq_of_named named]
      rfl

/-- No place can be entered into a context that is none. -/
theorem enterPlace_of_none
    {text : String}
    (named : particulars.placeText? = some text)
    (placeName : String) :
    enterPlace placeName particulars.placeValue .null = .error (.fixedContext "NoneType") := by
  unfold enterPlace
  rw [isTruthy_place, named]
  rfl

/-! ## The report -/

section Making

variable {kind : ReportKind}
variable {placeName : String}
variable {arguments : Arguments}

/-- A kind with a place has a code, and suggestions of its own. -/
theorem code_of_place
    (placed : kind.place? = some placeName) :
    (∃ code, kind.code? = some code ∧ code ≠ "") ∧ kind.suggestions ≠ [] := by
  cases kind <;> cases placed <;> exact ⟨⟨_, rfl, by decide⟩, List.cons_ne_nil _ _⟩

/-- What particulars make with a context as it is shown. -/
def ofShown
    (kind : ReportKind)
    (particulars : Particulars)
    (context : List (String × Value)) : Report where
  kind := kind
  message := particulars.message
  context := context
  suggestions :=
    if particulars.suggestionTexts = [] then kind.suggestions else particulars.suggestionTexts
  code := kind.code?

theorem isOf_ofShown
    (placed : kind.place? = some placeName)
    {held : List (Value × Value)}
    (holds : particulars.Holds placeName held) :
    IsOf kind placeName particulars (ofShown kind particulars (shownEntries held)) := by
  obtain ⟨⟨code, hasCode, codeShown⟩, hasSuggestions⟩ := code_of_place placed
  have suggests : (ofShown kind particulars (shownEntries held)).suggestions ≠ [] := by
    unfold ofShown
    split <;> assumption
  have codeOf : (ofShown kind particulars (shownEntries held)).code = some code := hasCode
  refine ⟨rfl, rfl, ⟨held, holds, rfl⟩, rfl, code, hasCode, codeOf, ?_⟩
  rw [render, lines, codeOf]
  simp only [codeShown, if_false, List.isEmpty_iff, suggests, contextLines]
  rfl

/-- Particulars make a report once the place is entered. -/
def ofParticulars
    (kind : ReportKind)
    (placeName : String)
    (particulars : Particulars) : Except ReportFault Report := do
  let context ← enterPlace placeName particulars.placeValue particulars.contextValue
  return ofShown kind particulars (← contextOf context)

/-- What carries particulars makes their report. -/
theorem Carries.ofPlaced_eq
    {bound : Bound}
    (carries : Carries placeName particulars bound)
    (kind : ReportKind) :
    ofPlaced kind placeName bound = ofParticulars kind placeName particulars := by
  simp only [ofPlaced, carries.message, carries.place, carries.context, carries.suggestions,
    suggestionsOf_passed, List.isEmpty_iff]
  rfl

/-- A call that passes particulars makes their report. -/
theorem Passes.ofArguments_eq
    (passes : Passes kind placeName particulars arguments)
    (placed : kind.place? = some placeName) :
    ofArguments kind arguments = ofParticulars kind placeName particulars := by
  obtain ⟨bound, binds, carries⟩ := passes.exists_bound placed
  rw [← carries.ofPlaced_eq kind]
  unfold ofArguments
  rw [binds, placed]
  rfl

/-- A context that is none gets no place. -/
theorem Passes.ofArguments_of_none
    (passes : Passes kind placeName particulars arguments)
    (placed : kind.place? = some placeName)
    (isNone : particulars.context = .none)
    {text : String}
    (named : particulars.placeText? = some text) :
    ofArguments kind arguments = .error (.fixedContext "NoneType") := by
  rw [passes.ofArguments_eq placed, ofParticulars, contextValue_of_none isNone,
    enterPlace_of_none named]
  rfl

/-- A report is made of particulars, and it is one of them, exactly when they do not name a place
together with a context that is none. -/
theorem report_made_iff
    (placed : kind.place? = some placeName)
    (passes : Passes kind placeName particulars arguments) :
    (∃ report,
        ofArguments kind arguments = .ok report ∧ IsOf kind placeName particulars report) ↔
      (particulars.context = .none → particulars.placeText? = none) := by
  constructor
  · rintro ⟨report, makes, -⟩ isNone
    cases named : particulars.placeText? with
    | none =>
        rfl
    | some text =>
        rw [passes.ofArguments_of_none placed isNone named] at makes
        cases makes
  · intro suits
    by_cases isNone : particulars.context = .none
    · have unnamed := suits isNone
      have holds : particulars.Holds placeName [] := by
        unfold Particulars.Holds Particulars.entries
        rw [unnamed, isNone]
      refine ⟨_, ?_, isOf_ofShown placed holds⟩
      rw [passes.ofArguments_eq placed, ofParticulars, contextValue_of_none isNone,
        enterPlace_of_unnamed unnamed]
      rfl
    · obtain ⟨held, enters, holds⟩ := exists_enterPlace isNone placeName
      refine ⟨_, ?_, isOf_ofShown placed holds⟩
      simp only [passes.ofArguments_eq placed, ofParticulars, enters, bind, Except.bind,
        contextOf_map]
      rfl

/-- A place in a context that has an older one, passed by name after the context. -/
theorem report_made_iff_of_older_place :
    ∃ particulars arguments,
      arguments =
        ⟨[.text "No such option"],
          [("context", .map [(.text "config_file", .text "old.yaml"), (.text "line", .int 3)]),
            ("config_file", .text "new.yaml"), ("suggestions", .null)]⟩ ∧
      ReportKind.configuration.place? = some "config_file" ∧
      Passes .configuration "config_file" particulars arguments ∧
      ∃ report,
        ofArguments .configuration arguments = .ok report ∧
          IsOf .configuration "config_file" particulars report := by
  let entries : List (Value × Value) :=
    [(.text "config_file", .text "old.yaml"), (.text "line", .int 3)]
  let particulars : Particulars :=
    ⟨"No such option", .given "new.yaml", .given entries, .none⟩
  have passes :
      Passes .configuration "config_file" particulars
        ⟨[.text "No such option"],
          [("context", .map entries), ("config_file", .text "new.yaml"), ("suggestions", .null)]⟩ :=
    ⟨by decide, rfl, rfl, rfl, rfl, rfl⟩
  exact ⟨particulars, _, rfl, rfl, passes, (report_made_iff rfl passes).mpr nofun⟩

/-- The same place with a context that is none makes no report. -/
theorem no_report_of_null_context :
    ∃ particulars arguments,
      arguments =
        ⟨[.text "No such option"], [("config_file", .text "new.yaml"), ("context", .null)]⟩ ∧
      Passes .configuration "config_file" particulars arguments ∧
      ofArguments .configuration arguments = .error (.fixedContext "NoneType") ∧
      ¬ ∃ report,
        ofArguments .configuration arguments = .ok report ∧
          IsOf .configuration "config_file" particulars report := by
  let particulars : Particulars := ⟨"No such option", .given "new.yaml", .none, .absent⟩
  have passes :
      Passes .configuration "config_file" particulars
        ⟨[.text "No such option"], [("config_file", .text "new.yaml"), ("context", .null)]⟩ :=
    ⟨by decide, rfl, rfl, rfl, rfl, rfl⟩
  have named : particulars.placeText? = some "new.yaml" := rfl
  have fails := passes.ofArguments_of_none rfl rfl named
  refine ⟨particulars, _, rfl, passes, fails, ?_⟩
  rintro ⟨report, makes, -⟩
  rw [fails] at makes
  cases makes

end Making

end Report

end Tablewright
