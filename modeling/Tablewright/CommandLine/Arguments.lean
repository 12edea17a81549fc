import Tablewright.CommandLine.Word

/-!
# Arguments of a run

The words of a command line are followed from left to right: operands fill their places in order,
options set what they stand for. A request for help ends this at once. Only at the end are places
that stayed empty, and words that found none, held against the user.
-/

namespace Tablewright.CommandLine

/-- What a command line asks for. A place that was filled by a second separator has no text. -/
structure Arguments where
  schema : Option String
  output : Option String
  config : Option String
  verbose : Bool
  noColor : Bool
  deriving Repr, DecidableEq

/-- What is to be done for a command line. -/
inductive Request where
  | help
  | run (arguments : Arguments)
  deriving Repr, DecidableEq

/-- The places for operands. -/
def places : List String := ["type_file", "output_file"]

/-- How far a command line has been followed. -/
structure Progress where
  operands : List (Option String)
  config : Option String
  verbose : Bool
  noColor : Bool
  leftOver : List String
  deriving Repr, DecidableEq

namespace Progress

/-- The beginning of a command line. -/
def start : Progress := ⟨[], none, false, false, []⟩

/-- Whether there is a place for another operand. -/
def hasPlace
    (progress : Progress) : Bool :=
  progress.operands.length < places.length

/-- The next place is filled. -/
def fill
    (progress : Progress)
    (operand : Option String) : Progress :=
  { progress with operands := progress.operands ++ [operand] }

/-- A word finds no place. -/
def leave
    (progress : Progress)
    (word : String) : Progress :=
  { progress with leftOver := progress.leftOver ++ [word] }

/-- The text of an operand or value. A separator there is taken away. -/
def textOf
    (word : String) : Option String :=
  if word = separatorText then none else some word

/-- An option is followed. Nothing is left to follow after a request for help. -/
def follow
    (progress : Progress) : Choice × String → Option Progress
  | (.help, _) => none
  | (.config, value) => some { progress with config := textOf value }
  | (.verbose, _) => some { progress with verbose := true }
  | (.noColor, _) => some { progress with noColor := true }

/-- Options are followed in order. -/
def followAll
    (progress : Progress)
    (settings : List (Choice × String)) : Option Progress :=
  settings.foldlM follow progress

/-- What was asked for, once all words have been followed. -/
def finish
    (progress : Progress) : Except Misuse Request :=
  match progress.operands with
  | [schema, output] =>
      if progress.leftOver.isEmpty then
        .ok (.run ⟨schema, output, progress.config, progress.verbose, progress.noColor⟩)
      else .error (.unrecognized progress.leftOver)
  | operands => .error (.missing (places.drop operands.length))

end Progress

/-- The options of one word, each with its value. The letters of options without values may stand
together; the value of the last one is the rest of the word or the word that follows. The second
part says whether that word is used up. -/
def optionsOf
    (choice : Choice)
    (byLetter : Bool)
    (next? : Option String) :
    Option (List Char) → Except Misuse (List (Choice × String) × Bool)
  | none =>
      if choice.takesValue then
        match next? with
        | some next => .ok ([(choice, next)], true)
        | none => .error (.withoutValue choice)
      else .ok ([(choice, "")], false)
  | some [] =>
      if choice.takesValue then .ok ([(choice, "")], false)
      else .error (.needlessValue choice "")
  | some (c :: rest) =>
      if choice.takesValue then .ok ([(choice, String.ofList (c :: rest))], false)
      else
        match if byLetter then Choice.ofLetter? c else none with
        | none => .error (.needlessValue choice (String.ofList (c :: rest)))
        | some next => do
            let (settings, used) ←
              match rest with
              | [] => optionsOf next true next? none
              | d :: more => optionsOf next true next? (some (d :: more))
            return ((choice, "") :: settings, used)
  termination_by value? => (value?.map fun chars => chars.length + 1).getD 0

/-- The operand that stands first, if one does. -/
def firstOperand? : List Word → Option String
  | .operand text :: _ => some text
  | _ => none

/-- Follows the words of a command line. -/
def followWords
    (progress : Progress) : List Word → Except Misuse Request
  | [] => progress.finish
  | .operand text :: .separator :: rest =>
      if progress.hasPlace then followWords (progress.fill (some text)) rest
      else followWords ((progress.leave text).leave separatorText) rest
  | .operand text :: rest =>
      if progress.hasPlace then followWords (progress.fill (Progress.textOf text)) rest
      else followWords (progress.leave text) rest
  | .separator :: .operand text :: rest =>
      if progress.hasPlace then followWords (progress.fill (some text)) rest
      else followWords ((progress.leave separatorText).leave text) rest
  | .separator :: rest => followWords (progress.leave separatorText) rest
  | .unknown text :: rest => followWords (progress.leave text) rest
  | .option occurrence :: rest => do
      let (settings, used) ←
        optionsOf occurrence.choice occurrence.byLetter (firstOperand? rest) occurrence.value?
      match progress.followAll settings with
      | none => return .help
      | some progress =>
          if used then
            match rest with
            | [] => progress.finish
            | _ :: rest => followWords progress rest
          else followWords progress rest

/-- What a command line asks for. -/
def Request.ofTexts
    (texts : List String) : Except Misuse Request := do
  followWords Progress.start (← Word.ofTexts texts)

end Tablewright.CommandLine
