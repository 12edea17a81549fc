import Mathlib.Data.List.Forall2
import Tablewright.Console.Logging

/-!
# What a console shows

Setting a console up takes every handler away that it had and gives it one, so a console that is set
up again and again still has one. That handler writes each record from the level on as one line:
the record in the standard layout, which a colour may stand around but never within.
-/

namespace Tablewright.Console

/-! ## Records in the standard layout -/

/-- The standard layout, which has fields with names. -/
def RecordLayout.standard : RecordLayout where
  pattern := standardLayout
  hasField := by decide

/-- The standard layout has two fields, with a colon and a blank between them. -/
theorem pieces_standardLayout :
    Pattern.pieces standardLayout =
      [.field ⟨some "levelname", [], .none, .none, 's', 12⟩, .plain ':', .plain ' ',
        .field ⟨some "message", [], .none, .none, 's', 25⟩] := by
  decide +kernel

/-- A text is written as it is by a field for texts without flags, width and precision. -/
theorem valueText_of_text
    {field : Field}
    (forText : field.conversion = 's')
    (withoutFlags : field.flags = [])
    (text : String) :
    Pattern.valueText field 0 none (.text text) = .ok text.toList := by
  simp [Pattern.valueText, forText, withoutFlags, Pattern.pad, Value.display]

theorem fieldText_of_named
    {name text : String}
    {entries : List (Value × Value)}
    (found : Value.field? name entries = some (.text text))
    (position : Nat)
    (ordered : List Value) :
    Pattern.fieldText (some entries) ⟨some name, [], .none, .none, 's', position⟩ ordered =
      .ok (text.toList, ordered) := by
  have isText :
      Pattern.valueText ⟨some name, [], .none, .none, 's', position⟩ 0 none (.text text) =
        .ok text.toList :=
    valueText_of_text rfl rfl text
  simp only [Pattern.fieldText, found, Pattern.measure, bind, Except.bind, pure, Except.pure,
    Option.getD_none, Option.map_none, Int.lt_irrefl, if_false, Int.natAbs_zero, isText]
  rfl

/-- Wherever a record came from, in the standard layout it is the name of its level, a colon and its
message. -/
theorem text_standard
    (origin : Origin)
    (record : LogRecord) :
    RecordLayout.standard.text origin record = .ok (standardText record) := by
  have levelName :
      Value.field? "levelname" (recordFields origin record) =
        some (.text (LogLevel.name record.level)) :=
    rfl
  have message :
      Value.field? "message" (recordFields origin record) = some (.text record.message) :=
    rfl
  have fills :
      Pattern.fill standardLayout ⟨[], some (recordFields origin record)⟩ =
        .ok (standardText record) := by
    have separated : ":" ++ (" " ++ record.message) = ": " ++ record.message := by
      rw [← String.append_assoc]
      rfl
    simp only [Pattern.fill, pieces_standardLayout, Pattern.fillFrom,
      fieldText_of_named levelName, fieldText_of_named message, bind, Except.bind, pure, Except.pure]
    simp [standardText, separated, String.append_assoc]
  simp only [RecordLayout.text, RecordLayout.standard, fills]

/-! ## Colours -/

/-- The colours that a record can have. -/
def colors : List String :=
  [colorCode "92" ++ bold, colorCode "94", colorCode "96", bold ++ colorCode "96", colorCode "36",
    colorCode "33", colorCode "31", colorCode "35"]

/-- A level that is not that of the course of a run gives one of the colours, or none. -/
theorem levelColor_cases
    {level : LogLevel}
    (notInfo : level ≠ LogLevel.info) :
    levelColor level = "" ∨ levelColor level ∈ colors := by
  unfold levelColor
  rw [if_neg notInfo]
  repeat' split
  all_goals simp [colors]

/-- A record has one of the colours, or none. -/
theorem colorOf_cases
    (record : LogRecord) :
    colorOf record = "" ∨ colorOf record ∈ colors := by
  unfold colorOf
  dsimp only
  split
  · next matters =>
      apply levelColor_cases
      intro isInfo
      rw [isInfo] at matters
      revert matters
      decide
  split
  · exact Or.inr (by simp [colors])
  split
  · exact Or.inr (by simp [colors])
  split
  · exact Or.inr (by simp [colors])
  split
  · exact Or.inr (by simp [colors])
  split
  · next isDebug =>
      apply levelColor_cases
      rw [isDebug]
      decide
  · exact Or.inl rfl

/-! ## Lines -/

/-- A line shows a record if it is the record in the standard layout with a line end behind it; in
colour the record may also stand between one colour and the end of colours. -/
inductive ShowsAs
    (origin : Origin)
    (colored : Bool)
    (record : LogRecord) : String → Prop where
  | plain
      {text : String}
      (laidOut : RecordLayout.standard.text origin record = .ok text) :
      ShowsAs origin colored record (text ++ "\n")
  | painted
      {text color : String}
      (laidOut : RecordLayout.standard.text origin record = .ok text)
      (inColor : colored = true)
      (isColor : color ∈ colors) :
      ShowsAs origin colored record (color ++ text ++ reset ++ "\n")

theorem showsAs_recordText
    (origin : Origin)
    (colored : Bool)
    (record : LogRecord) :
    ShowsAs origin colored record (recordText colored record ++ "\n") := by
  have laidOut := text_standard origin record
  unfold recordText
  split
  · next inColor =>
      unfold paint
      dsimp only
      split
      · exact .plain laidOut
      · next isColored =>
          exact .painted laidOut inColor ((colorOf_cases record).resolve_left isColored)
  · exact .plain laidOut

/-! ## Setting up -/

namespace Logging

variable {level : LogLevel}
variable {useColors terminal : Bool}

/-- Of a console's handlers none is left when each has been removed. -/
theorem foldl_removeHandler
    (level : LogLevel)
    (handlers : List Handler) :
    handlers.foldl removeHandler ⟨level, handlers⟩ = ⟨level, []⟩ := by
  induction handlers with
  | nil =>
      rfl
  | cons handler rest inductionHypothesis =>
      have removed : removeHandler ⟨level, handler :: rest⟩ handler = ⟨level, rest⟩ := by
        simp [removeHandler]
      rw [List.foldl_cons, removed, inductionHypothesis]

/-- A console that is set up has one handler, whatever it had before. -/
theorem setUp_eq
    (logging : Logging) :
    setUp level useColors terminal logging = ⟨level, [⟨level, useColors && terminal⟩]⟩ := by
  have cleared : logging.handlers.foldl removeHandler logging = ⟨logging.level, []⟩ :=
    foldl_removeHandler logging.level logging.handlers
  rw [setUp, cleared]
  rfl

/-- Setting a console up again changes nothing. -/
theorem repeat_setUp
    {times : Nat}
    (isSetUp : 0 < times)
    (logging : Logging) :
    times.repeat (setUp level useColors terminal) logging =
      setUp level useColors terminal logging := by
  obtain ⟨before, rfl⟩ := Nat.exists_eq_add_one.mpr isSetUp
  rw [Nat.repeat, setUp_eq, setUp_eq]

/-- A console that is set up writes a line for each record from its level on. -/
theorem write_setUp
    (logging : Logging)
    {record : LogRecord}
    (positive : 0 < record.level) :
    (setUp level useColors terminal logging).write record =
      if level ≤ record.level then recordText (useColors && terminal) record ++ "\n" else "" := by
  by_cases shown : level ≤ record.level
  · simp [setUp_eq, write, Handler.write, positive, shown]
  · simp [setUp_eq, write, shown]

/-- The records from the level on are written as lines that show them, in their order. -/
theorem exists_lines_writeAll
    (origin : Origin)
    (logging : Logging)
    {records : List LogRecord}
    (positive : ∀ record ∈ records, 0 < record.level) :
    ∃ lines,
      List.Forall₂ (ShowsAs origin (useColors && terminal))
        (records.filter fun record => level ≤ record.level) lines ∧
      (setUp level useColors terminal logging).writeAll records = String.join lines := by
  induction records with
  | nil =>
      exact ⟨[], .nil, rfl⟩
  | cons record rest inductionHypothesis =>
      obtain ⟨recordPositive, restPositive⟩ := List.forall_mem_cons.mp positive
      obtain ⟨lines, areShown, areWritten⟩ := inductionHypothesis restPositive
      have step :
          (setUp level useColors terminal logging).writeAll (record :: rest) =
            (setUp level useColors terminal logging).write record ++ String.join lines := by
        rw [← areWritten, writeAll, writeAll, List.map_cons, String.join_cons]
      rw [step, write_setUp logging recordPositive]
      by_cases isShown : level ≤ record.level
      · refine ⟨(recordText (useColors && terminal) record ++ "\n") :: lines, ?_, ?_⟩
        · rw [List.filter_cons_of_pos (by simpa using isShown)]
          exact .cons (showsAs_recordText origin _ record) areShown
        · rw [if_pos isShown, String.join_cons]
      · refine ⟨lines, ?_, ?_⟩
        · rwa [List.filter_cons_of_neg (by simpa using isShown)]
        · rw [if_neg isShown, String.empty_append]

end Logging

/-! ## Calls that log -/

/-- A call that logs. -/
inductive LogCall where
  | success (message : String)
  | progress (message : String)
  | highlight (message : String)
  | heading (title : String)
  | atLevel (level : LogLevel) (positive : 0 < level) (message : String)

/-- The records that a call makes. -/
def LogCall.records : LogCall → List LogRecord
  | .success message => [Console.success message]
  | .progress message => [Console.progress message]
  | .highlight message => [Console.highlight message]
  | .heading title => Console.heading title
  | .atLevel level _ message => [⟨level, message⟩]

theorem LogCall.positive_of_mem_records
    {call : LogCall}
    {record : LogRecord}
    (member : record ∈ call.records) :
    0 < record.level := by
  have infoPositive : 0 < LogLevel.info := by decide
  cases call with
  | success message | progress message | highlight message =>
      rw [List.mem_singleton.mp member]
      exact infoPositive
  | heading title =>
      simp only [records, Console.heading, List.mem_cons, List.not_mem_nil, or_false] at member
      rcases member with rfl | rfl | rfl <;> exact infoPositive
  | atLevel level positive message =>
      rw [List.mem_singleton.mp member]
      exact positive

/-- A console that has been set up any number of times, whatever handlers it had before, shows what
one shows that has been set up once: each record from its level on as one line and nothing of the
others, in the order of the calls. -/
theorem console_shows_each_record_once
    {times : Nat}
    (isSetUp : 0 < times)
    (level : LogLevel)
    (useColors terminal : Bool)
    (start : Logging)
    (origin : Origin)
    (calls : List LogCall) :
    let records := calls.flatMap LogCall.records
    let console := times.repeat (Logging.setUp level useColors terminal) start
    console.writeAll records = (Logging.setUp level useColors terminal start).writeAll records ∧
      ∃ lines,
        List.Forall₂ (ShowsAs origin (useColors && terminal))
          (records.filter fun record => level ≤ record.level) lines ∧
        console.writeAll records = String.join lines := by
  intro records console
  have isOnce : console = Logging.setUp level useColors terminal start :=
    Logging.repeat_setUp isSetUp start
  have positive : ∀ record ∈ records, 0 < record.level := by
    intro record member
    obtain ⟨call, -, isMade⟩ := List.mem_flatMap.mp member
    exact LogCall.positive_of_mem_records isMade
  rw [isOnce]
  exact ⟨rfl, Logging.exists_lines_writeAll origin start positive⟩

/-- A console that wrote everything without colour, set up three times for a terminal. -/
theorem console_shows_each_record_once_of_three :
    0 < 3 ∧
      let calls : List LogCall :=
        [.success "done", .atLevel LogLevel.debug (by decide) "detail",
          .atLevel 25 (by decide) "100% %s", .atLevel LogLevel.error (by decide) "broken"]
      let records := calls.flatMap LogCall.records
      let start : Logging := ⟨LogLevel.debug, [⟨LogLevel.debug, false⟩]⟩
      let console := Nat.repeat (Logging.setUp LogLevel.info true true) 3 start
      console.writeAll records =
          "\x1b[92m\x1b[1mINFO: ✓ done\x1b[0m\nLevel 25: 100% %s\n\x1b[31mERROR: broken\x1b[0m\n" ∧
        ∃ lines,
          List.Forall₂ (ShowsAs ⟨"gen", "x.py", 1⟩ true)
            (records.filter fun record => LogLevel.info ≤ record.level) lines ∧
          console.writeAll records = String.join lines := by
  refine ⟨by decide, ?_, ?_⟩
  · decide +kernel
  · exact (console_shows_each_record_once (by decide) LogLevel.info true true _ _ _).2

end Tablewright.Console
