import Tablewright.Proofs.CommandLine.Session

/-!
# Flags of the command line

Two options say only how much is said and in what colour. Words for them may be taken out of a
command line wherever they stand, and letters for them out of words that stand for other options as
well: what is asked for is the same. There is one place where that fails, because a separator right
behind an operand is passed over: between an operand and two separators in a row. There flags may
be exchanged only.
-/

namespace Tablewright.CommandLine

/-- Whether an option is about what is said only. -/
def Choice.isFlag : Choice → Bool
  | .verbose => true
  | .noColor => true
  | _ => false

/-- The options that a word stands for, and whether the word behind it is used up. -/
def Occurrence.options
    (occurrence : Occurrence)
    (next? : Option String) : Except Misuse (List (Choice × String) × Bool) :=
  optionsOf occurrence.choice occurrence.byLetter next? occurrence.value?

/-- A word for a flag alone stands for nothing else, and uses up nothing behind it. -/
theorem options_of_flag
    {choice : Choice}
    (isFlag : choice.isFlag = true)
    (byLetter : Bool)
    (next? : Option String) :
    Occurrence.options ⟨choice, byLetter, none⟩ next? = .ok ([(choice, "")], false) := by
  cases choice with
  | help | config =>
      cases isFlag
  | verbose | noColor =>
      rw [Occurrence.options, optionsOf.eq_def]
      rfl

/-- The settings without those that are about what is said only. -/
def withoutFlags
    (settings : List (Choice × String)) : List (Choice × String) :=
  settings.filter fun setting => !setting.1.isFlag

theorem withoutFlags_nil :
    withoutFlags [] = [] :=
  rfl

/-- The second list of words is the first one without some of its flags, or with others for them.
The mark says that the word before is an operand; a flag that stands between this and a separator
may not be taken out if another separator follows. -/
inductive DropsFlags : Bool → List Word → List Word → Prop where
  | nil
      {afterOperand : Bool} :
      DropsFlags afterOperand [] []
  | separator
      {afterOperand : Bool}
      (texts : List String)
      (apart : afterOperand = true → texts.head? ≠ some separatorText) :
      DropsFlags afterOperand (.separator :: texts.map .operand)
        (.separator :: texts.map .operand)
  | closed
      {afterOperand : Bool}
      {text : String}
      (named : text ≠ separatorText)
      (texts : List String) :
      DropsFlags afterOperand (.operand text :: .separator :: texts.map .operand)
        (.operand text :: .separator :: texts.map .operand)
  | operand
      {afterOperand : Bool}
      {text : String}
      {words plain : List Word}
      (named : text ≠ separatorText)
      (rest : DropsFlags true words plain) :
      DropsFlags afterOperand (.operand text :: words) (.operand text :: plain)
  | unknown
      {afterOperand : Bool}
      {words plain : List Word}
      (text : String)
      (rest : DropsFlags false words plain) :
      DropsFlags afterOperand (.unknown text :: words) (.unknown text :: plain)
  | flag
      {afterOperand : Bool}
      {words plain : List Word}
      {occurrence : Occurrence}
      {settings : List (Choice × String)}
      (stands : ∀ next?, occurrence.options next? = .ok (settings, false))
      (areFlags : withoutFlags settings = [])
      (rest : DropsFlags afterOperand words plain) :
      DropsFlags afterOperand (.option occurrence :: words) plain
  | option
      {afterOperand : Bool}
      {words plain : List Word}
      {occurrence other : Occurrence}
      {settings otherSettings : List (Choice × String)}
      (stands : ∀ next?, occurrence.options next? = .ok (settings, false))
      (otherStands : ∀ next?, other.options next? = .ok (otherSettings, false))
      (alike : withoutFlags settings = withoutFlags otherSettings)
      (rest : DropsFlags false words plain) :
      DropsFlags afterOperand (.option occurrence :: words) (.option other :: plain)
  | valued
      {afterOperand : Bool}
      {words plain : List Word}
      {occurrence other : Occurrence}
      {value : String}
      {settings otherSettings : List (Choice × String)}
      (stands : occurrence.options (some value) = .ok (settings, true))
      (otherStands : other.options (some value) = .ok (otherSettings, true))
      (alike : withoutFlags settings = withoutFlags otherSettings)
      (rest : DropsFlags false words plain) :
      DropsFlags afterOperand (.option occurrence :: .operand value :: words)
        (.option other :: .operand value :: plain)

/-! ## What is asked for, apart from flags -/

/-- Two ways along a command line that differ in flags only. -/
structure Progress.IsLike
    (progress other : Progress) : Prop where
  operands : progress.operands = other.operands
  config : progress.config = other.config
  leftOver : progress.leftOver = other.leftOver

/-- Two requests that differ in flags only. -/
inductive Request.IsLike : Request → Request → Prop where
  | help : IsLike .help .help
  | run
      {arguments other : Arguments}
      (schema : arguments.schema = other.schema)
      (output : arguments.output = other.output)
      (config : arguments.config = other.config) :
      IsLike (.run arguments) (.run other)

namespace Progress.IsLike

variable {progress other another : Progress}

theorem refl
    (progress : Progress) :
    progress.IsLike progress :=
  ⟨rfl, rfl, rfl⟩

theorem symm
    (like : progress.IsLike other) :
    other.IsLike progress :=
  ⟨like.operands.symm, like.config.symm, like.leftOver.symm⟩

theorem trans
    (like : progress.IsLike other)
    (alike : other.IsLike another) :
    progress.IsLike another :=
  ⟨like.operands.trans alike.operands, like.config.trans alike.config,
    like.leftOver.trans alike.leftOver⟩

theorem hasPlace
    (like : progress.IsLike other) :
    progress.hasPlace = other.hasPlace := by
  rw [Progress.hasPlace, Progress.hasPlace, like.operands]

theorem fill
    (like : progress.IsLike other)
    (operand : Option String) :
    (progress.fill operand).IsLike (other.fill operand) where
  operands := congrArg (· ++ [operand]) like.operands
  config := like.config
  leftOver := like.leftOver

theorem leave
    (like : progress.IsLike other)
    (word : String) :
    (progress.leave word).IsLike (other.leave word) where
  operands := like.operands
  config := like.config
  leftOver := congrArg (· ++ [word]) like.leftOver

/-- At the end of a command line flags make no difference to what is asked for. -/
theorem finish
    (like : progress.IsLike other)
    {request : Request}
    (asks : progress.finish = .ok request) :
    ∃ also, other.finish = .ok also ∧ request.IsLike also := by
  obtain ⟨operands, config, verbose, noColor, leftOver⟩ := progress
  obtain ⟨_, _, otherVerbose, otherNoColor, _⟩ := other
  obtain ⟨rfl, rfl, rfl⟩ := like
  unfold Progress.finish at asks ⊢
  split at asks
  · next schema output isPair =>
      dsimp only at isPair asks ⊢
      subst isPair
      split at asks
      · next isEmpty =>
          cases asks
          exact ⟨.run ⟨schema, output, config, otherVerbose, otherNoColor⟩, by simp [isEmpty],
            .run rfl rfl rfl⟩
      · cases asks
  · cases asks

/-- Settings that are flags make no difference to what the others do. -/
private theorem followAll_withoutFlags
    (like : progress.IsLike other)
    (settings : List (Choice × String)) :
    Option.Rel Progress.IsLike (progress.followAll settings)
      (other.followAll (withoutFlags settings)) := by
  induction settings generalizing progress other with
  | nil =>
      exact .some like
  | cons setting rest inductionHypothesis =>
      obtain ⟨choice, value⟩ := setting
      cases choice with
      | help =>
          exact .none
      | config =>
          apply inductionHypothesis
          exact ⟨like.operands, rfl, like.leftOver⟩
      | verbose =>
          apply inductionHypothesis
          exact ⟨like.operands, like.config, like.leftOver⟩
      | noColor =>
          apply inductionHypothesis
          exact ⟨like.operands, like.config, like.leftOver⟩

/-- Settings that differ in flags only are followed alike. -/
theorem followAll
    (like : progress.IsLike other)
    {settings otherSettings : List (Choice × String)}
    (alike : withoutFlags settings = withoutFlags otherSettings) :
    Option.Rel Progress.IsLike (progress.followAll settings)
      (other.followAll otherSettings) := by
  have first := like.followAll_withoutFlags settings
  have second := followAll_withoutFlags (.refl other) otherSettings
  rw [alike] at first
  revert first second
  generalize progress.followAll settings = after
  generalize other.followAll (withoutFlags otherSettings) = between
  generalize other.followAll otherSettings = otherAfter
  intro first second
  cases first with
  | none =>
      cases second
      exact .none
  | some toBetween =>
      cases second with
      | some fromBetween =>
          exact .some (toBetween.trans fromBetween.symm)

end Progress.IsLike

/-! ## Following words -/

theorem followWords_nil
    (progress : Progress) :
    followWords progress [] = progress.finish :=
  rfl

theorem followWords_unknown
    (progress : Progress)
    (text : String)
    (words : List Word) :
    followWords progress (.unknown text :: words) = followWords (progress.leave text) words :=
  rfl

/-- Following a separator that nothing follows. -/
theorem followWords_separator_nil
    (progress : Progress) :
    followWords progress [.separator] = followWords (progress.leave separatorText) [] :=
  rfl

/-- Following a separator and the operand behind it. -/
theorem followWords_separator_operand
    (progress : Progress)
    (text : String)
    (words : List Word) :
    followWords progress (.separator :: .operand text :: words) =
      if progress.hasPlace then followWords (progress.fill (some text)) words
      else followWords ((progress.leave separatorText).leave text) words :=
  rfl

/-- Following an operand that no separator follows. -/
theorem followWords_operand
    (progress : Progress)
    (text : String)
    {words : List Word}
    (open' : ∀ rest, words ≠ .separator :: rest) :
    followWords progress (.operand text :: words) =
      if progress.hasPlace then followWords (progress.fill (Progress.textOf text)) words
      else followWords (progress.leave text) words := by
  cases words with
  | nil =>
      rfl
  | cons word rest =>
      cases word with
      | separator =>
          exact absurd rfl (open' rest)
      | operand | option | unknown =>
          rfl

/-- Following an operand and a separator. -/
theorem followWords_closed
    (progress : Progress)
    (text : String)
    (rest : List Word) :
    followWords progress (.operand text :: .separator :: rest) =
      if progress.hasPlace then followWords (progress.fill (some text)) rest
      else followWords ((progress.leave text).leave separatorText) rest :=
  rfl

/-- No separator stands among operands. -/
theorem map_operand_ne_separator
    (texts : List String)
    (rest : List Word) :
    texts.map Word.operand ≠ .separator :: rest := by
  cases texts <;> simp

/-- Once a word found no place, operands alone do not make a command line right. -/
theorem followWords_operands_ne_ok
    {progress : Progress}
    (left : progress.leftOver ≠ [])
    (texts : List String)
    (request : Request) :
    followWords progress (texts.map .operand) ≠ .ok request := by
  induction texts generalizing progress with
  | nil =>
      rw [List.map_nil, followWords_nil, Progress.finish]
      split
      · simp [left]
      · simp
  | cons text texts inductionHypothesis =>
      rw [List.map_cons, followWords_operand _ _ (map_operand_ne_separator texts)]
      split
      · exact inductionHypothesis left
      · exact inductionHypothesis (by simp [Progress.leave])

/-- Operands are followed alike. -/
theorem followWords_operands_like
    {progress other : Progress}
    (like : progress.IsLike other)
    {texts : List String}
    {request : Request}
    (asks : followWords progress (texts.map .operand) = .ok request) :
    ∃ also, followWords other (texts.map .operand) = .ok also ∧ request.IsLike also := by
  induction texts generalizing progress other with
  | nil =>
      rw [List.map_nil, followWords_nil] at asks ⊢
      exact like.finish asks
  | cons text texts inductionHypothesis =>
      rw [List.map_cons, followWords_operand _ _ (map_operand_ne_separator texts)] at asks ⊢
      rw [← like.hasPlace]
      split at asks
      · next place =>
          rw [if_pos place]
          exact inductionHypothesis (like.fill _) asks
      · next noPlace =>
          rw [if_neg noPlace]
          exact inductionHypothesis (like.leave _) asks

/-- An operand, a separator and operands are followed alike. -/
theorem followWords_closed_like
    {progress other : Progress}
    (like : progress.IsLike other)
    {text : String}
    {texts : List String}
    {request : Request}
    (asks :
      followWords progress (.operand text :: .separator :: texts.map .operand) = .ok request) :
    ∃ also,
      followWords other (.operand text :: .separator :: texts.map .operand) = .ok also ∧
        request.IsLike also := by
  rw [followWords_closed] at asks ⊢
  rw [← like.hasPlace]
  split at asks
  · next place =>
      rw [if_pos place]
      exact followWords_operands_like (like.fill _) asks
  · next noPlace =>
      rw [if_neg noPlace]
      exact followWords_operands_like ((like.leave _).leave _) asks

/-- Following words, where the mark says that they stand right behind an operand that found its
place. There a separator is passed over. -/
def followFrom
    (afterOperand : Bool)
    (progress : Progress) : List Word → Except Misuse Request
  | .separator :: rest =>
      if afterOperand then followWords progress rest
      else followWords progress (.separator :: rest)
  | words => followWords progress words

/-- Where no separator stands first, it makes no difference what stands in front. -/
theorem followFrom_of_open
    (afterOperand : Bool)
    (progress : Progress)
    {words : List Word}
    (open' : ∀ rest, words ≠ .separator :: rest) :
    followFrom afterOperand progress words = followWords progress words := by
  unfold followFrom
  split
  · next rest =>
      exact absurd rfl (open' rest)
  · rfl

/-- At the beginning of a command line no operand stands in front. -/
theorem followFrom_false
    (progress : Progress)
    (words : List Word) :
    followFrom false progress words = followWords progress words := by
  unfold followFrom
  split <;> rfl

/-- Behind an operand that finds its place a separator is passed over. -/
theorem followWords_operand_of_place
    {progress : Progress}
    {text : String}
    (place : progress.hasPlace = true)
    (named : text ≠ separatorText)
    (words : List Word) :
    followWords progress (.operand text :: words) =
      followFrom true (progress.fill (some text)) words := by
  have textKept : Progress.textOf text = some text :=
    if_neg named
  by_cases closed : ∃ rest, words = .separator :: rest
  · obtain ⟨rest, rfl⟩ := closed
    rw [followWords_closed, if_pos place, followFrom, if_pos rfl]
  · have open' : ∀ rest, words ≠ .separator :: rest := fun rest same =>
      closed ⟨rest, same⟩
    rw [followWords_operand _ _ open', if_pos place, textKept, followFrom_of_open _ _ open']

/-- Following words once the options in front of them have been followed. -/
def continueWith
    (words : List Word) : Option Progress → Except Misuse Request
  | none => .ok .help
  | some progress => followWords progress words

/-- Following an option whose word stands for settings. -/
theorem followWords_settings
    (progress : Progress)
    (words : List Word)
    {occurrence : Occurrence}
    {settings : List (Choice × String)}
    {used : Bool}
    (stands : occurrence.options (firstOperand? words) = .ok (settings, used)) :
    followWords progress (.option occurrence :: words) =
      continueWith (if used then words.drop 1 else words) (progress.followAll settings) := by
  unfold Occurrence.options at stands
  rw [followWords.eq_def]
  dsimp only
  rw [stands]
  simp only [bind, Except.bind, pure, Except.pure]
  cases progress.followAll settings with
  | none =>
      rfl
  | some after =>
      cases used with
      | false =>
          rfl
      | true =>
          cases words <;> rfl

/-- Following an option whose word uses up nothing behind it. -/
theorem followWords_option
    (progress : Progress)
    {occurrence : Occurrence}
    {settings : List (Choice × String)}
    (stands : ∀ next?, occurrence.options next? = .ok (settings, false))
    (words : List Word) :
    followWords progress (.option occurrence :: words) =
      continueWith words (progress.followAll settings) :=
  followWords_settings progress words (stands (firstOperand? words))

/-- Following an option whose word uses up the operand behind it. -/
theorem followWords_valued
    (progress : Progress)
    {occurrence : Occurrence}
    {value : String}
    {settings : List (Choice × String)}
    (stands : occurrence.options (some value) = .ok (settings, true))
    (words : List Word) :
    followWords progress (.option occurrence :: .operand value :: words) =
      continueWith words (progress.followAll settings) :=
  followWords_settings progress (.operand value :: words) stands

/-- Where words are followed alike, they are so behind options that differ in flags only. -/
theorem continueWith_like
    {words plain : List Word}
    {request : Request}
    (rest :
      ∀ {progress other : Progress},
        progress.IsLike other →
        followWords progress words = .ok request →
        ∃ also, followWords other plain = .ok also ∧ request.IsLike also)
    {after? otherAfter? : Option Progress}
    (like : Option.Rel Progress.IsLike after? otherAfter?)
    (asks : continueWith words after? = .ok request) :
    ∃ also, continueWith plain otherAfter? = .ok also ∧ request.IsLike also := by
  cases like with
  | none =>
      cases asks
      exact ⟨.help, rfl, .help⟩
  | some likeAfter =>
      exact rest likeAfter asks

/-- A command line is right only if an operand stands behind its separator and finds a place. -/
theorem followWords_separator_eq_ok
    {progress : Progress}
    {texts : List String}
    {request : Request}
    (asks : followWords progress (.separator :: texts.map .operand) = .ok request) :
    ∃ text rest,
      texts = text :: rest ∧ progress.hasPlace = true ∧
        followWords (progress.fill (some text)) (rest.map .operand) = .ok request := by
  cases texts with
  | nil =>
      rw [List.map_nil, followWords_separator_nil] at asks
      exact absurd asks (followWords_operands_ne_ok (by simp [Progress.leave]) [] request)
  | cons text rest =>
      rw [List.map_cons, followWords_separator_operand] at asks
      split at asks
      · next place =>
          exact ⟨text, rest, rfl, place, asks⟩
      · exact absurd asks
          (followWords_operands_ne_ok (by simp [Progress.leave]) rest request)

/-- A separator and operands are followed alike, and so they are where the separator is passed over,
unless another one stands behind it. -/
theorem followWords_separator_like
    {progress other : Progress}
    (like : progress.IsLike other)
    {texts : List String}
    {afterOperand : Bool}
    (apart : afterOperand = true → texts.head? ≠ some separatorText)
    {request : Request}
    (asks : followWords progress (.separator :: texts.map .operand) = .ok request) :
    ∃ also,
      followFrom afterOperand other (.separator :: texts.map .operand) = .ok also ∧
        request.IsLike also := by
  obtain ⟨text, rest, rfl, place, asks⟩ := followWords_separator_eq_ok asks
  have otherPlace : other.hasPlace = true := like.hasPlace ▸ place
  obtain ⟨also, asksAlso, same⟩ := followWords_operands_like (like.fill _) asks
  refine ⟨also, ?_, same⟩
  cases afterOperand with
  | false =>
      rw [followFrom_false, List.map_cons, followWords_separator_operand, if_pos otherPlace]
      exact asksAlso
  | true =>
      have textKept : Progress.textOf text = some text :=
        if_neg (by simpa using apart rfl)
      rw [followFrom, if_pos rfl, List.map_cons,
        followWords_operand _ _ (map_operand_ne_separator rest), if_pos otherPlace, textKept]
      exact asksAlso

namespace DropsFlags

variable {afterOperand : Bool}
variable {words plain rest : List Word}

/-- The first separator is not taken out, and operands follow it. -/
theorem of_separator
    (drops : DropsFlags afterOperand (.separator :: rest) plain) :
    plain = .separator :: rest ∧ ∃ texts : List String, rest = texts.map .operand := by
  cases drops with
  | separator texts apart =>
      exact ⟨rfl, texts, rfl⟩

/-- Operands follow the first separator that is left. -/
theorem operands_of_separator
    (drops : DropsFlags afterOperand words (.separator :: rest)) :
    ∃ texts : List String, rest = texts.map .operand := by
  generalize shape : Word.separator :: rest = plain at drops
  induction drops with
  | nil | closed | operand | unknown | option | valued =>
      cases shape
  | separator texts apart =>
      cases shape
      exact ⟨texts, rfl⟩
  | flag stands areFlags drops inductionHypothesis =>
      exact inductionHypothesis shape

/-- If an operand finds no place and the words behind it are followed alike, it is so with it. -/
theorem operand_like_of_noPlace
    (drops : DropsFlags true words plain)
    {other : Progress}
    (noPlace : ¬ other.hasPlace = true)
    {text : String}
    {request : Request}
    (asks : followFrom true (other.leave text) plain = .ok request) :
    followWords other (.operand text :: plain) = .ok request := by
  by_cases closed : ∃ rest, plain = .separator :: rest
  · -- Only operands follow, so the word that found no place is held against the user.
    obtain ⟨rest, rfl⟩ := closed
    obtain ⟨texts, rfl⟩ := drops.operands_of_separator
    exact absurd asks
      (followWords_operands_ne_ok (by simp [Progress.leave]) texts request)
  · have open' : ∀ rest, plain ≠ .separator :: rest := fun rest same =>
      closed ⟨rest, same⟩
    rw [followFrom_of_open _ _ open'] at asks
    rw [followWords_operand _ _ open', if_neg noPlace]
    exact asks

/-- Where a command line is accepted, it asks for the same without its flags. -/
theorem follow_like
    (drops : DropsFlags afterOperand words plain)
    {progress other : Progress}
    (like : progress.IsLike other)
    {request : Request}
    (asks : followWords progress words = .ok request) :
    ∃ also, followFrom afterOperand other plain = .ok also ∧ request.IsLike also := by
  induction drops generalizing progress other with
  | nil =>
      rw [followWords_nil] at asks
      exact like.finish asks
  | separator texts apart =>
      exact followWords_separator_like like apart asks
  | closed named texts =>
      rw [followFrom_of_open _ _ (by simp)]
      exact followWords_closed_like like asks
  | @operand afterOperand text words plain named drops inductionHypothesis =>
      rw [followFrom_of_open _ _ (by simp)]
      by_cases closed : ∃ rest, words = .separator :: rest
      · obtain ⟨rest, rfl⟩ := closed
        obtain ⟨rfl, texts, rfl⟩ := drops.of_separator
        exact followWords_closed_like like asks
      · have textKept : Progress.textOf text = some text :=
          if_neg named
        rw [followWords_operand _ _ (fun rest same => closed ⟨rest, same⟩), textKept] at asks
        split at asks
        · next place =>
            rw [followWords_operand_of_place (like.hasPlace ▸ place) named]
            exact inductionHypothesis (like.fill _) asks
        · next noPlace =>
            obtain ⟨also, asksAlso, same⟩ := inductionHypothesis (like.leave text) asks
            exact ⟨also, drops.operand_like_of_noPlace (like.hasPlace ▸ noPlace) asksAlso, same⟩
  | unknown text drops inductionHypothesis =>
      rw [followFrom_of_open _ _ (by simp), followWords_unknown]
      rw [followWords_unknown] at asks
      rw [← followFrom_false]
      exact inductionHypothesis (like.leave text) asks
  | flag stands areFlags drops inductionHypothesis =>
      rw [followWords_option _ stands] at asks
      have follows := like.followAll (areFlags.trans withoutFlags_nil.symm)
      generalize progress.followAll _ = after at asks follows
      cases follows with
      | some likeAfter =>
          exact inductionHypothesis likeAfter asks
  | option stands otherStands alike drops inductionHypothesis =>
      simp only [followFrom_false] at inductionHypothesis
      rw [followFrom_of_open _ _ (by simp), followWords_option _ otherStands]
      rw [followWords_option _ stands] at asks
      exact continueWith_like inductionHypothesis (like.followAll alike) asks
  | valued stands otherStands alike drops inductionHypothesis =>
      simp only [followFrom_false] at inductionHypothesis
      rw [followFrom_of_open _ _ (by simp), followWords_valued _ otherStands]
      rw [followWords_valued _ stands] at asks
      exact continueWith_like inductionHypothesis (like.followAll alike) asks

end DropsFlags

end Tablewright.CommandLine
