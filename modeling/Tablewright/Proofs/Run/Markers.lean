import Tablewright.Proofs.Run.Template
import Tablewright.Proofs.Text.Counting
import Tablewright.Proofs.Text.Utf8

/-!
# What is told of a marker, and what becomes of it

A template is warned of by counting its markers, and methods come in the place of the first one.
Both agree: a missing marker is told exactly when nothing is replaced, and repeated markers exactly
when there is one left behind the first.
-/

namespace Tablewright.Run

open Files (Path)
open Text (IsCount IsFirstOccurrence Occurs countOccurrences replaceFirst)

/-- Tells that there is no marker in a template. -/
def missingWarning
    (path : Path)
    (placeholder : String) : LogRecord :=
  .warning ("Placeholder '" ++ placeholder ++ "' not found in " ++ path.text ++
    "; no table methods will be inserted.")

/-- Tells how many markers there are in a template. -/
def repeatedWarning
    (path : Path)
    (placeholder : String)
    (count : Nat) : LogRecord :=
  .warning ("Placeholder '" ++ placeholder ++ "' appears " ++ toString count ++
    " times in " ++ path.text ++ "; only the first is replaced.")

/-- The warnings that fit a text: the marker is missing when it does not occur, and repeated when it
occurs again behind its first occurrence. The count that is then told is that behind the first and
one more. -/
structure TellsOf
    (path : Path)
    (placeholder text : String)
    (warnings : List LogRecord) : Prop where
  atMostOne : warnings.length ≤ 1
  onlyMarkers :
    ∀ record ∈ warnings,
      record = missingWarning path placeholder ∨
        ∃ count, record = repeatedWarning path placeholder count
  missing : missingWarning path placeholder ∈ warnings ↔ ¬ Occurs placeholder text
  repeated :
    ∀ count,
      repeatedWarning path placeholder count ∈ warnings ↔
        ∃ before after others,
          IsFirstOccurrence placeholder text before after ∧
            Occurs placeholder after ∧
            IsCount placeholder after others ∧
            count = others + 1

section Warnings

variable {path : Path}
variable {placeholder text : String}

/-- A warning of repeated markers tells how many there are. -/
theorem repeatedWarning_inj
    {count other : Nat} :
    repeatedWarning path placeholder count = repeatedWarning path placeholder other ↔
      count = other := by
  constructor
  · intro same
    simp only [repeatedWarning, LogRecord.warning, LogRecord.mk.injEq, true_and,
      String.append_left_inj, String.append_right_inj] at same
    have sameDigits : Nat.toDigits 10 count = Nat.toDigits 10 other := by
      simpa [Nat.repr_eq_ofList_toDigits] using congrArg String.toList same
    calc
      count = Nat.ofDigitChars 10 (Nat.toDigits 10 count) 0 :=
        Nat.ofDigitChars_ten_toDigits.symm
      _ = Nat.ofDigitChars 10 (Nat.toDigits 10 other) 0 := by rw [sameDigits]
      _ = other := Nat.ofDigitChars_ten_toDigits
  · rintro rfl
    rfl

/-- No warning tells both that there is no marker and that there are several. -/
theorem missingWarning_ne_repeatedWarning
    (count : Nat) :
    missingWarning path placeholder ≠ repeatedWarning path placeholder count := by
  intro same
  simp only [missingWarning, repeatedWarning, LogRecord.warning, LogRecord.mk.injEq, true_and,
    String.append_assoc, String.append_right_inj] at same
  have sameChars := congrArg String.toList same
  simp at sameChars

/-- What is logged about markers depends on whether there are none, one or several. -/
theorem markerLog_cases
    (path : Path)
    (placeholder text : String) :
    (countOccurrences placeholder text = 0 ∧
        markerLog path placeholder text = [missingWarning path placeholder]) ∨
      (countOccurrences placeholder text = 1 ∧ markerLog path placeholder text = []) ∨
      (1 < countOccurrences placeholder text ∧
        markerLog path placeholder text =
          [repeatedWarning path placeholder (countOccurrences placeholder text)]) := by
  unfold markerLog
  dsimp only
  split
  · next none =>
      exact .inl ⟨none, rfl⟩
  · split
    · next many =>
        exact .inr (.inr ⟨many, rfl⟩)
    · next notNone notMany =>
        exact .inr (.inl ⟨by omega, rfl⟩)

/-- Nothing is logged about a marker exactly when it occurs once. -/
theorem markerLog_eq_nil_iff :
    markerLog path placeholder text = [] ↔ countOccurrences placeholder text = 1 := by
  rcases markerLog_cases path placeholder text with ⟨none, logs⟩ | ⟨one, logs⟩ | ⟨several, logs⟩
  · simp [logs, none]
  · simp [logs, one]
  · simp only [logs, List.cons_ne_nil, false_iff]
    omega

/-- It is told that a marker is missing exactly when none is counted. -/
theorem missingWarning_mem_markerLog_iff :
    missingWarning path placeholder ∈ markerLog path placeholder text ↔
      countOccurrences placeholder text = 0 := by
  rcases markerLog_cases path placeholder text with ⟨none, logs⟩ | ⟨one, logs⟩ | ⟨several, logs⟩
  · simp [logs, none]
  · simp [logs, one]
  · rw [logs, List.mem_singleton]
    constructor
    · intro same
      exact (missingWarning_ne_repeatedWarning _ same).elim
    · omega

/-- The number of markers is told exactly when several are counted. -/
theorem repeatedWarning_mem_markerLog_iff
    {count : Nat} :
    repeatedWarning path placeholder count ∈ markerLog path placeholder text ↔
      1 < countOccurrences placeholder text ∧ count = countOccurrences placeholder text := by
  rcases markerLog_cases path placeholder text with ⟨none, logs⟩ | ⟨one, logs⟩ | ⟨several, logs⟩
  · rw [logs, List.mem_singleton]
    constructor
    · intro same
      exact (missingWarning_ne_repeatedWarning _ same.symm).elim
    · omega
  · simp [logs, one]
  · simp [logs, several, repeatedWarning_inj]

/-- What is logged about the markers of a text fits the text. -/
theorem tellsOf_markerLog
    (nonempty : placeholder ≠ "")
    (path : Path)
    (text : String) :
    TellsOf path placeholder text (markerLog path placeholder text) where
  atMostOne := by
    rcases markerLog_cases path placeholder text with ⟨-, logs⟩ | ⟨-, logs⟩ | ⟨-, logs⟩ <;>
      simp [logs]
  onlyMarkers := by
    intro record member
    rcases markerLog_cases path placeholder text with ⟨-, logs⟩ | ⟨-, logs⟩ | ⟨-, logs⟩
    · exact .inl (by simpa [logs] using member)
    · simp [logs] at member
    · exact .inr ⟨_, by simpa [logs] using member⟩
  missing := by
    rw [missingWarning_mem_markerLog_iff, Text.countOccurrences_eq_zero_iff nonempty]
  repeated := by
    intro count
    rw [repeatedWarning_mem_markerLog_iff, Text.several_iff nonempty]

end Warnings

/-- Reading a template that holds a text gives the text with unified line ends and logs what there
is to say about its markers. -/
theorem readTemplate_of_readFile
    {surroundings : Surroundings}
    {state : State}
    {path : Path}
    {content : List UInt8}
    {text : String}
    (reads : state.tree.readFile surroundings.workingDirectory path = .ok content)
    (decodes : Text.decode content = .ok text)
    (placeholder : String) :
    outcome (readTemplate path placeholder) surroundings state =
      (.ok (String.ofList (Text.unifyLineEnds text.toList)),
        { state with
          log :=
            state.log ++
              markerLog path placeholder (String.ofList (Text.unifyLineEnds text.toList)) }) := by
  have ends :
      Ends surroundings state (readTemplate path placeholder)
        (fun given final =>
          given = String.ofList (Text.unifyLineEnds text.toList) ∧
            final =
              { state with log := state.log ++ markerLog path placeholder given })
        (fun _ _ => False) := by
    have readText :
        Ends surroundings state
          (readText path (reportOfFile .template "Could not read template" path))
          (fun given final =>
            given = String.ofList (Text.unifyLineEnds text.toList) ∧ final = state)
          (fun _ _ => False) := by
      unfold Run.readText
      refine Ends.ask_bind_of_ok reads ?_
      rw [decodes]
      exact Ends.pure ⟨rfl, rfl⟩
    unfold readTemplate
    refine readText.bind ?_
    rintro given between ⟨isText, isState⟩
    have logged :
        Ends surroundings between (log (markerLog path placeholder given))
          (fun _ final =>
            final = { state with log := state.log ++ markerLog path placeholder given })
          (fun _ _ => False) :=
      Ends.log (by rw [isState])
    refine logged.bind fun _ last isLast => Ends.pure ⟨isText, isLast⟩
  obtain ⟨_, _, succeeds, rfl, rfl⟩ := ends.exists_ok
  exact succeeds

/-- Methods come in the place of the first marker of a template and of nothing else, and without a
marker the template stays. Reading a template gives a text, leaves the tree alone and logs what fits
the text: that the marker is missing, when nothing is replaced, or how many there are, when one is
left behind the first. -/
theorem substitution_agrees_with_warnings
    {placeholder : String}
    (nonempty : placeholder ≠ "") :
    (∀ text methods before after,
        IsFirstOccurrence placeholder text before after →
        replaceFirst placeholder methods text = before ++ methods ++ after) ∧
      (∀ text methods,
        ¬ Occurs placeholder text →
        replaceFirst placeholder methods text = text) ∧
      ∀ (surroundings : Surroundings) (state : State) (path : Path) (content : List UInt8)
        (source : String),
        state.tree.readFile surroundings.workingDirectory path = .ok content →
        Text.decode content = .ok source →
        ∃ text warnings,
          text = String.ofList (Text.unifyLineEnds source.toList) ∧
            outcome (readTemplate path placeholder) surroundings state =
              (.ok text, { state with log := state.log ++ warnings }) ∧
            TellsOf path placeholder text warnings := by
  refine ⟨?replaced, ?kept, ?told⟩
  case replaced =>
    intro text methods before after isFirst
    exact isFirst.replaceFirst_eq methods
  case kept =>
    intro text methods absent
    exact Text.replaceFirst_of_not_occurs absent methods
  case told =>
    intro surroundings state path content source reads decodes
    exact ⟨_, _, rfl, readTemplate_of_readFile reads decodes placeholder,
      tellsOf_markerLog nonempty path _⟩

/-- A directory `w` with a template whose markers overlap. -/
def overlappingState : State :=
  ⟨⟨[(["w"], .directory), (["w", "t.py"], .file (Text.encode "xaaaaa"))]⟩, []⟩

/-- The marker `aa` is replaced once in `xaaaaa`, also by methods that hold it. It is told that
there are two of them. -/
theorem substitution_agrees_with_warnings_of_overlap :
    replaceFirst "aa" "[aa]" "xaaaaa" = "x[aa]aaa" ∧
      replaceFirst "aa" "[aa]" "xaba" = "xaba" ∧
      ∃ warnings,
        outcome (readTemplate (.ofText "t.py") "aa") ⟨["w"], .works⟩ overlappingState =
            (.ok "xaaaaa", { overlappingState with log := warnings }) ∧
          repeatedWarning (.ofText "t.py") "aa" 2 ∈ warnings ∧
          missingWarning (.ofText "t.py") "aa" ∉ warnings := by
  have nonempty : "aa" ≠ "" := by decide
  have isFirst : IsFirstOccurrence "aa" "xaaaaa" "x" "aaa" :=
    Text.splitAtFirst?_eq_some_iff_isFirstOccurrence.mp (by decide)
  have absent : ¬ Occurs "aa" "xaba" :=
    Text.splitAtFirst?_eq_none_iff_not_occurs.mp (by decide)
  have again : Occurs "aa" "aaa" := ⟨"", "a", by decide⟩
  have counted : IsCount "aa" "aaa" 1 := (Text.isCount_iff nonempty).mpr (by decide)
  obtain ⟨replaced, kept, told⟩ := substitution_agrees_with_warnings nonempty
  obtain ⟨text, warnings, isText, succeeds, fits⟩ :=
    told ⟨["w"], .works⟩ overlappingState (.ofText "t.py") _ "xaaaaa" rfl (Text.decode_encode _)
  obtain rfl : text = "xaaaaa" := isText.trans (by decide)
  refine ⟨replaced _ _ _ _ isFirst, kept _ _ absent, warnings, succeeds, ?_, ?_⟩
  · exact (fits.repeated 2).mpr ⟨_, _, 1, isFirst, again, counted, rfl⟩
  · intro member
    exact fits.missing.mp member isFirst.occurs

end Tablewright.Run
