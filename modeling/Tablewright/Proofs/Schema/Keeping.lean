import Tablewright.Proofs.Schema.Names
import Tablewright.Proofs.Schema.Readers
import Tablewright.Schema.Grammar.Statement

/-!
# Names that readers keep to

The names in the trees of a schema are those of its tokens: if all words among the tokens are good
names, the trees that readers make of them have good names only. Readers are built of others by a
few rules, and each rule keeps to good names.
-/

namespace Tablewright.Schema

open Named (IsNamed)

variable {good : String → Prop}

/-- A reader that is given good names yields and leaves only good names. -/
def Reader.Keeps
    {α : Type}
    [Named α]
    (good : String → Prop)
    (reader : Reader α) : Prop :=
  ∀ tokens value rest,
    IsNamed good tokens →
    reader tokens = some (value, rest) →
    IsNamed good value ∧ IsNamed good rest

namespace Reader.Keeps

variable {α β : Type} [Named α] [Named β]
variable {reader : Reader α} {other : Reader β}

theorem pure
    {value : α}
    (named : IsNamed good value) :
    Keeps good (Pure.pure value : Reader α) := by
  intro tokens other rest given reads
  cases reads
  exact ⟨named, given⟩

theorem failure :
    Keeps good (Alternative.failure : Reader α) := by
  intro tokens value rest given reads
  cases reads

theorem bind
    {next : α → Reader β}
    (first : Keeps good reader)
    (second : ∀ value, IsNamed good value → Keeps good (next value)) :
    Keeps good (reader >>= next) := by
  intro tokens value rest given reads
  rw [bind_apply] at reads
  obtain ⟨⟨between, others⟩, readsFirst, readsSecond⟩ := Option.bind_eq_some_iff.mp reads
  obtain ⟨named, left⟩ := first _ _ _ given readsFirst
  exact second between named _ _ _ left readsSecond

/-- What a reader yields and leaves. -/
theorem isNamed
    (keeps : Keeps good reader)
    {tokens rest : List Token}
    {value : α}
    (given : IsNamed good tokens)
    (reads : reader tokens = some (value, rest)) :
    IsNamed good value ∧ IsNamed good rest :=
  keeps tokens value rest given reads

/-- One reader after another, whatever the first one yields. -/
theorem seq
    (first : Keeps good reader)
    (second : Keeps good other) :
    Keeps good (reader >>= fun _ => other) :=
  first.bind fun _ _ => second

/-- What is made of that which a reader yields. -/
theorem yields
    {make : α → β}
    (keeps : Keeps good reader)
    (named : ∀ value, IsNamed good value → IsNamed good (make value)) :
    Keeps good (reader >>= fun value => Pure.pure (make value)) :=
  keeps.bind fun value given => .pure (named value given)

/-- Trees that are read after given ones. -/
theorem after
    {trees : List Tree}
    {others : Reader (List Tree)}
    (keeps : Keeps good others)
    (given : IsNamed good trees) :
    Keeps good (others >>= fun rest => Pure.pure (trees ++ rest)) :=
  keeps.yields fun _ named => Named.isNamed_append.mpr ⟨given, named⟩

/-- A choice between readers that both keep to good names. -/
theorem ite
    {condition : Prop}
    [Decidable condition]
    {other : Reader α}
    (whenTrue : Keeps good reader)
    (whenFalse : Keeps good other) :
    Keeps good (if condition then reader else other) := by
  split
  · exact whenTrue
  · exact whenFalse

/-- A test that decides between two readers. -/
theorem either
    {test : Reader Bool}
    {following : Reader β}
    (first : Keeps good test)
    (whenTrue : Keeps good other)
    (whenFalse : Keeps good following) :
    Keeps good (test >>= fun holds => if holds = true then other else following) :=
  first.bind fun _ _ => .ite whenTrue whenFalse

/-- A step that is taken if a condition holds, before what follows in any case. -/
theorem skip
    {condition : Bool}
    (first : Keeps good reader)
    (second : Keeps good other) :
    Keeps good (if condition = true then reader >>= fun _ => other else other) :=
  .ite (first.seq second) second

/-- Items that are read if a test holds, before what follows in any case. -/
theorem perhaps
    {test : Reader Bool}
    {items : Reader (List α)}
    {following : List α → Reader β}
    (first : Keeps good test)
    (second : Keeps good items)
    (third : ∀ values, IsNamed good values → Keeps good (following values)) :
    Keeps good (test >>= fun holds =>
      if holds = true then items >>= following else Pure.pure [] >>= following) :=
  first.either (second.bind third) (Keeps.bind (.pure Named.isNamed_nil) third)

theorem perhapsOne
    {test : Reader Bool}
    {following : List α → Reader β}
    (first : Keeps good test)
    (second : Keeps good reader)
    (third : ∀ values, IsNamed good values → Keeps good (following values)) :
    Keeps good (test >>= fun holds =>
      if holds = true then reader >>= fun value => Pure.pure [value] >>= following
      else Pure.pure [] >>= following) := by
  refine first.either (second.bind fun _ named => ?_) ?_
  · exact Keeps.bind (.pure (by simp [named])) third
  · exact Keeps.bind (.pure Named.isNamed_nil) third

theorem attempt
    (keeps : Keeps good reader) :
    Keeps good (attempt reader) := by
  intro tokens value rest given reads
  unfold Reader.attempt at reads
  cases tried : reader tokens with
  | none =>
      rw [tried] at reads
      cases reads
      exact ⟨Named.isNamed_none, given⟩
  | some found =>
      rw [tried] at reads
      cases reads
      obtain ⟨named, left⟩ := keeps _ _ _ given tried
      exact ⟨Named.isNamed_some.mpr named, left⟩

/-- A reader that is tried, before what follows if it fails and if it does not. -/
theorem attempted
    {following : Option α → Reader β}
    (first : Keeps good reader)
    (failed : Keeps good (following none))
    (succeeded : ∀ value, IsNamed good value → Keeps good (following (some value))) :
    Keeps good (Reader.attempt reader >>= following) := by
  refine first.attempt.bind fun value? named => ?_
  cases value? with
  | none =>
      exact failed
  | some value =>
      exact succeeded value (Named.isNamed_some.mp named)

theorem lookAhead
    (keeps : Keeps good reader) :
    Keeps good (lookAhead reader) := by
  intro tokens value rest given reads
  rw [lookAhead_apply] at reads
  cases reads
  refine ⟨?_, given⟩
  intro seen found
  obtain ⟨⟨_, left⟩, tried, rfl⟩ := Option.map_eq_some_iff.mp found
  exact (keeps _ _ _ given tried).1

/-! ### Single tokens -/

@[simp] theorem peek? :
    Keeps good peek? := by
  intro tokens value rest given reads
  rw [peek?_apply] at reads
  cases reads
  exact ⟨Named.isNamed_head? given, given⟩

@[simp] theorem next :
    Keeps good next := by
  intro tokens value rest given reads
  cases tokens with
  | nil =>
      cases reads
  | cons token others =>
      cases reads
      exact Named.isNamed_cons.mp given

@[simp] theorem nextIs
    (test : Token → Bool) :
    Keeps good (nextIs test) := by
  intro tokens value rest given reads
  rw [nextIs_apply] at reads
  cases reads
  exact ⟨Named.isNamed_bool _, given⟩

@[simp] theorem secondIs
    (test : Token → Bool) :
    Keeps good (secondIs test) := by
  intro tokens value rest given reads
  rw [secondIs_apply] at reads
  cases reads
  exact ⟨Named.isNamed_bool _, given⟩

@[simp] theorem acceptIf
    (test : Token → Bool) :
    Keeps good (acceptIf test) :=
  (nextIs test).either (next.seq (.pure (Named.isNamed_bool _))) (.pure (Named.isNamed_bool _))

@[simp] theorem require
    (test : Token → Bool) :
    Keeps good (require test) :=
  (acceptIf test).either (.pure (Named.isNamed_unit _)) .failure

@[simp] theorem acceptSign
    (spelling : String) :
    Keeps good (acceptSign spelling) :=
  acceptIf _

@[simp] theorem acceptWord
    (spelling : String) :
    Keeps good (acceptWord spelling) :=
  acceptIf _

@[simp] theorem requireSign
    (spelling : String) :
    Keeps good (requireSign spelling) :=
  require _

@[simp] theorem requireWord
    (spelling : String) :
    Keeps good (requireWord spelling) :=
  require _

@[simp] theorem atSign
    (spelling : String) :
    Keeps good (atSign spelling) :=
  nextIs _

@[simp] theorem atWord
    (spelling : String) :
    Keeps good (atWord spelling) :=
  nextIs _

@[simp] theorem anyWord :
    Keeps good anyWord := by
  refine next.bind fun token named => ?_
  split
  · next spelling isWord =>
      refine .pure ?_
      apply named
      unfold Token.word? at isWord
      split at isWord
      · next kind =>
          cases isWord
          exact kind
      · cases isWord
  · exact .failure

/-! ### Lists of tokens -/

/-- What stands behind brackets is the end of the tokens. -/
theorem afterBrackets?_isSuffix
    {depth : Nat}
    {tokens rest : List Token}
    (found : afterBrackets? depth tokens = some rest) :
    rest <:+ tokens := by
  fun_induction afterBrackets? depth tokens with
  | case1 | case3 | case6 =>
      cases found
  | case4 =>
      cases found
      exact List.suffix_cons _ _
  | case2 _ _ _ _ inductionHypothesis
  | case5 _ _ _ _ _ inductionHypothesis
  | case7 _ _ _ _ _ inductionHypothesis =>
      exact (inductionHypothesis found).trans (List.suffix_cons _ _)

/-- A reader that takes what brackets enclose. -/
theorem afterBrackets
    (depth : Nat) :
    Keeps good
      (fun tokens => (afterBrackets? depth tokens).map fun rest => ((), rest) : Reader Unit) := by
  intro tokens value rest given reads
  obtain ⟨left, found, same⟩ := Option.map_eq_some_iff.mp reads
  cases same
  exact ⟨Named.isNamed_unit _, Named.isNamed_of_isSuffix given (afterBrackets?_isSuffix found)⟩

@[simp] theorem skipBrackets :
    Keeps good skipBrackets := by
  intro tokens value rest given reads
  unfold Reader.skipBrackets at reads
  rw [bind_apply] at reads
  obtain ⟨⟨between, others⟩, isGet, reads⟩ := Option.bind_eq_some_iff.mp reads
  cases isGet
  dsimp only at reads
  cases found : afterBrackets? 0 tokens with
  | none =>
      rw [found] at reads
      cases reads
  | some left =>
      rw [found] at reads
      cases reads
      exact ⟨Named.isNamed_unit _, Named.isNamed_of_isSuffix given (afterBrackets?_isSuffix found)⟩

theorem separated
    (separator closing : String)
    {item : Reader Tree}
    (keeps : Keeps good item)
    (fuel : Nat) :
    Keeps good (separated separator closing item fuel) := by
  induction fuel with
  | zero =>
      exact .failure
  | succ fuel inductionHypothesis =>
      refine (acceptIf _).either (.pure Named.isNamed_nil) ?_
      refine keeps.bind fun _ first => (acceptIf _).either (.pure (by simp [first])) ?_
      exact (require _).seq <| inductionHypothesis.yields fun _ others => by simp [first, others]

theorem joined
    (sign : String)
    {item : Reader Tree}
    (keeps : Keeps good item)
    (fuel : Nat) :
    Keeps good (joined sign item fuel) := by
  induction fuel with
  | zero =>
      exact .failure
  | succ fuel inductionHypothesis =>
      refine keeps.bind fun _ first => (acceptIf _).either ?_ (.pure (by simp [first]))
      exact inductionHypothesis.yields fun _ others => by simp [first, others]

@[simp] theorem atEnd :
    Keeps good atEnd := by
  refine peek?.bind fun _ _ => ?_
  split <;> exact .pure (Named.isNamed_bool _)

@[simp] theorem statementEnd :
    Keeps good statementEnd :=
  (acceptIf _).either (.pure (Named.isNamed_unit _)) <|
    atEnd.either (.pure (Named.isNamed_unit _)) .failure

/-! ### Parts of types -/

@[simp] theorem modifiers
    (fuel : Nat) :
    Keeps good (modifiers fuel) := by
  induction fuel with
  | zero =>
      exact .failure
  | succ fuel inductionHypothesis =>
      refine (nextIs _).bind fun _ _ => (secondIs _).bind fun _ _ => .ite ?_ ?_
      · exact next.seq inductionHypothesis
      · exact .pure (Named.isNamed_unit _)

@[simp] theorem memberName :
    Keeps good memberName := by
  refine peek?.bind fun token? named => ?_
  split
  · next token =>
      split
      · next spelling isWord =>
          refine next.seq (.pure ?_)
          exact Named.isNamed_some.mpr (Named.isNamed_some.mp named spelling isWord)
      · exact next.seq (.pure Named.isNamed_none)
      · exact next.seq (.pure Named.isNamed_none)
      · exact next.seq (.pure Named.isNamed_none)
      · exact skipBrackets.seq (.pure Named.isNamed_none)
      · exact .failure
  · exact .failure

@[simp] theorem dottedName
    (fuel : Nat) :
    Keeps good (dottedName fuel) := by
  induction fuel with
  | zero =>
      exact .failure
  | succ fuel inductionHypothesis =>
      unfold Reader.dottedName
      refine next.bind fun _ _ => ?_
      have goesOn :
          Keeps good (do
            if ← Reader.acceptSign "." then Reader.dottedName fuel
            else if ← Reader.acceptSign "?." then Reader.dottedName fuel
            else return ()) :=
        (acceptIf _).either inductionHypothesis <|
          (acceptIf _).either inductionHypothesis (.pure (Named.isNamed_unit _))
      dsimp only
      split
      · exact goesOn
      · exact goesOn
      · exact .failure

@[simp] theorem atFunctionType :
    Keeps good atFunctionType := by
  refine (nextIs _).either (.pure (Named.isNamed_bool _)) ?_
  refine (nextIs _).either ?_ (.pure (Named.isNamed_bool _))
  exact (skipBrackets.seq (require _)).lookAhead.yields fun _ _ => Named.isNamed_bool _

@[simp] theorem atConstructorType :
    Keeps good atConstructorType := by
  refine (nextIs _).either (secondIs _) ?_
  exact (nextIs _).either (secondIs _) (.pure (Named.isNamed_bool _))

@[simp] theorem atIndex :
    Keeps good atIndex := by
  refine Keeps.yields (lookAhead ?_) fun _ _ => Named.isNamed_bool _
  exact (require _).seq <| anyWord.seq (require _)

@[simp] theorem optionalMark :
    Keeps good optionalMark :=
  (acceptIf _).seq <| (acceptIf _).seq (.pure (Named.isNamed_unit _))

@[simp] theorem objectEnd :
    Keeps good objectEnd :=
  acceptIf _

/-! ### Parts of statements -/

@[simp] theorem atArrow :
    Keeps good atArrow := by
  refine Keeps.yields (lookAhead ?_) fun _ _ => Named.isNamed_bool _
  exact (acceptIf _).seq <| (require _).seq <| (afterBrackets 1).seq (require _)

@[simp] theorem angleOperator
    (fuel : Nat) :
    Keeps good (angleOperator fuel) := by
  induction fuel with
  | zero =>
      exact .pure (Named.isNamed_unit _)
  | succ fuel inductionHypothesis =>
      exact (acceptIf _).either inductionHypothesis (.pure (Named.isNamed_unit _))

@[simp] theorem importClause
    (fuel : Nat) :
    Keeps good (importClause fuel) := by
  induction fuel with
  | zero =>
      exact .failure
  | succ fuel inductionHypothesis =>
      refine atEnd.either (.pure (Named.isNamed_unit _)) ?_
      exact (nextIs _).either (skipBrackets.seq inductionHypothesis) (next.seq inductionHypothesis)

@[simp] theorem wordFollows :
    Keeps good wordFollows :=
  secondIs _

theorem group
    {trees : Reader (List Tree)}
    (keeps : Keeps good trees) :
    Keeps good (group trees) :=
  keeps.yields fun _ => Tree.isNamed_group.mpr

end Reader.Keeps

-- From here on readers are taken apart by the rules alone.
attribute [irreducible] Reader.Keeps

end Tablewright.Schema
