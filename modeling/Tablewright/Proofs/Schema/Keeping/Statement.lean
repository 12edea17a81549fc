import Tablewright.Proofs.Schema.Keeping.Type
import Tablewright.Schema.Extraction

/-!
# Names in statements

Readers for statements keep to good names, as those for types do. So the names in the trees of a
text are words of the text.
-/

namespace Tablewright.Schema

open Named (IsNamed)

variable {good : String → Prop}

namespace Reader

/-! ### Declarations that hold types only -/

theorem Keeps.typeAlias
    (fuel : Nat) :
    Keeps good (typeAlias fuel) := by
  cases fuel with
  | zero =>
      exact .failure
  | succ fuel =>
      unfold Reader.typeAlias
      refine Keeps.anyWord.seq <| (typesKeep fuel).typeParameters.bind fun _ types => ?_
      refine (Keeps.requireSign _).seq <| (typesKeep fuel).type.bind fun _ aliased => ?_
      exact Keeps.statementEnd.seq (.pure (by simp [types, aliased]))

theorem Keeps.interface
    (fuel : Nat) :
    Keeps good (interface fuel) := by
  cases fuel with
  | zero =>
      exact .failure
  | succ fuel =>
      unfold Reader.interface
      refine Keeps.anyWord.seq <| (typesKeep fuel).typeParameters.bind fun _ types => ?_
      refine (Keeps.acceptWord _).perhaps ((typesKeep fuel).type.joined _ _) fun _ bases => ?_
      exact (typesKeep fuel).memberBlock.yields fun _ body => by simp [types, bases, body]

/-! ### Statements with expressions -/

/-- All other readers for statements keep to good names in a number of steps. -/
structure StatementsKeep
    (good : String → Prop)
    (fuel : Nat) : Prop where
  expression : Keeps good (expression fuel)
  assignment : Keeps good (assignment fuel)
  attemptArrow : Keeps good (attemptArrow fuel)
  arrowHeader : Keeps good (arrowHeader fuel)
  arrowBody : Keeps good (arrowBody fuel)
  functionHeader : Keeps good (functionHeader fuel)
  argument : Keeps good (argument fuel)
  pattern : Keeps good (pattern fuel)
  initializer : Keeps good (initializer fuel)
  operations : Keeps good (operations fuel)
  operand : Keeps good (operand fuel)
  access : Keeps good (access fuel)
  primary : Keeps good (primary fuel)
  arrayRest : Keeps good (arrayRest fuel)
  templateRest : Keeps good (templateRest fuel)
  objectEntry : Keeps good (objectEntry fuel)
  functionRest : Keeps good (functionRest fuel)
  decorators : Keeps good (decorators fuel)
  classRest : Keeps good (classRest fuel)
  classMembers : Keeps good (classMembers fuel)
  classMember : Keeps good (classMember fuel)
  block : Keeps good (block fuel)
  blockRest : Keeps good (blockRest fuel)
  declarators : Keeps good (declarators fuel)
  condition : Keeps good (condition fuel)
  loopHeader : Keeps good (loopHeader fuel)
  loopParts : Keeps good (loopParts fuel)
  cases : Keeps good (cases fuel)
  module : Keeps good (module fuel)
  exported : Keeps good (exported fuel)
  statement : Keeps good (statement fuel)
  expressionStatement : Keeps good (expressionStatement fuel)
  wordStatement : ∀ spelling, Keeps good (wordStatement spelling fuel)

-- As with types, the fields hide the readers of the same names.
section

variable {fuel : Nat}
variable (keep : StatementsKeep good fuel)

include keep

theorem StatementsKeep.expression_succ :
    Keeps good (Reader.expression (fuel + 1)) := by
  unfold Reader.expression
  refine keep.assignment.bind fun _ first => ?_
  exact (Keeps.acceptSign _).either (keep.expression.after first) (.pure first)

theorem StatementsKeep.assignment_succ :
    Keeps good (Reader.assignment (fuel + 1)) := by
  unfold Reader.assignment
  refine keep.attemptArrow.bind fun arrow? arrow => ?_
  cases arrow? with
  | none =>
      exact keep.operand.bind fun _ first => keep.operations.after first
  | some parts =>
      exact .pure (Named.isNamed_some.mp arrow)

theorem StatementsKeep.attemptArrow_succ :
    Keeps good (Reader.attemptArrow (fuel + 1)) := by
  have body :
      Keeps good (do return some (← Reader.arrowBody fuel)) :=
    keep.arrowBody.yields fun _ => Named.isNamed_some.mpr
  have bodyAfter
      (types : List Tree)
      (named : IsNamed good types) :
      Keeps good (do return some (types ++ (← Reader.arrowBody fuel))) :=
    keep.arrowBody.yields fun _ body => by simp [named, body]
  unfold Reader.attemptArrow
  refine (Keeps.secondIs _).bind fun _ _ => (Keeps.nextIs _).bind fun _ _ => .ite ?_ ?_
  · exact Keeps.next.seq <| Keeps.next.seq body
  refine (Keeps.atWord _).bind fun _ _ => (Keeps.secondIs _).bind fun _ _ => .ite ?_ ?_
  · refine .attempted ?_ (.pure Named.isNamed_none) fun _ _ => body
    exact (Keeps.requireWord _).seq <| Keeps.anyWord.seq (Keeps.requireSign _)
  refine Keeps.atArrow.either ?_ ?_
  · exact keep.arrowHeader.attempted (.pure Named.isNamed_none) bodyAfter
  refine (Keeps.atSign _).bind fun _ _ => (Keeps.atWord _).bind fun _ _ => ?_
  refine (Keeps.secondIs _).bind fun _ _ => .ite ?_ (.pure Named.isNamed_none)
  exact keep.arrowHeader.attempted (.pure Named.isNamed_none) bodyAfter

theorem StatementsKeep.arrowHeader_succ :
    Keeps good (Reader.arrowHeader (fuel + 1)) := by
  unfold Reader.arrowHeader
  refine (Keeps.acceptWord _).seq <| keep.functionHeader.bind fun _ types => ?_
  exact (Keeps.requireSign _).seq (.pure types)

theorem StatementsKeep.arrowBody_succ :
    Keeps good (Reader.arrowBody (fuel + 1)) := by
  unfold Reader.arrowBody
  exact (Keeps.atSign _).either keep.block keep.assignment

theorem StatementsKeep.functionHeader_succ :
    Keeps good (Reader.functionHeader (fuel + 1)) := by
  unfold Reader.functionHeader
  refine (typesKeep fuel).typeParameters.bind fun _ types => (Keeps.requireSign _).seq ?_
  refine (Keeps.separated _ _ (.group keep.argument) _).bind fun _ arguments => ?_
  exact (typesKeep fuel).optionalType.yields fun _ result => by simp [types, arguments, result]

theorem StatementsKeep.argument_succ :
    Keeps good (Reader.argument (fuel + 1)) := by
  unfold Reader.argument
  refine keep.decorators.bind fun _ marks => (Keeps.acceptSign _).seq ?_
  refine (Keeps.modifiers _).seq <| keep.pattern.bind fun _ name => (Keeps.acceptSign _).seq ?_
  refine (typesKeep fuel).optionalType.bind fun _ declared => ?_
  exact keep.initializer.yields fun _ default => by simp [marks, name, declared, default]

theorem StatementsKeep.pattern_succ :
    Keeps good (Reader.pattern (fuel + 1)) := by
  unfold Reader.pattern
  refine (Keeps.atSign _).bind fun _ _ => (Keeps.atSign _).bind fun _ _ => .ite keep.primary ?_
  exact Keeps.anyWord.seq (.pure Named.isNamed_nil)

theorem StatementsKeep.initializer_succ :
    Keeps good (Reader.initializer (fuel + 1)) := by
  unfold Reader.initializer
  exact (Keeps.acceptSign _).either keep.assignment (.pure Named.isNamed_nil)

theorem StatementsKeep.operations_succ :
    Keeps good (Reader.operations (fuel + 1)) := by
  unfold Reader.operations
  refine (Keeps.acceptIf _).either ?_ <| (Keeps.acceptSign _).either ?_ ?_
  · refine (typesKeep fuel).type.bind fun _ type => ?_
    exact keep.operations.yields fun _ others => by simp [type, others]
  · refine keep.assignment.bind fun _ whenTrue => (Keeps.requireSign _).seq ?_
    exact keep.assignment.after whenTrue
  refine (Keeps.acceptIf _).either keep.assignment ?_
  refine (Keeps.nextIs _).either ?_ (.pure Named.isNamed_nil)
  exact (Keeps.angleOperator _).seq keep.assignment

theorem StatementsKeep.operand_succ :
    Keeps good (Reader.operand (fuel + 1)) := by
  unfold Reader.operand
  refine (Keeps.acceptIf _).either ?_ <| (Keeps.acceptSign _).either ?_ <|
    (Keeps.acceptWord _).either ?_ ?_
  · refine (Keeps.acceptSign _).seq ?_
    exact (Keeps.nextIs _).either (.pure Named.isNamed_nil) keep.operand
  · refine (typesKeep fuel).type.bind fun _ type => (Keeps.requireSign _).seq ?_
    exact keep.operand.yields fun _ others => by simp [type, others]
  · exact (Keeps.acceptSign _).either (Keeps.anyWord.seq keep.access) keep.operand
  · exact keep.primary.bind fun _ first => keep.access.after first

theorem StatementsKeep.access_succ :
    Keeps good (Reader.access (fuel + 1)) := by
  unfold Reader.access
  refine (Keeps.acceptSign _).either (Keeps.next.seq keep.access) ?_
  refine (Keeps.acceptSign _).either ?_ <| (Keeps.acceptSign _).either ?_ <|
    (Keeps.acceptSign _).either ?_ <| (Keeps.nextIs _).either ?_ <|
    (Keeps.acceptIf _).either keep.access <|
    (Keeps.atSign _).either ?_ (.pure Named.isNamed_nil)
  · exact (Keeps.nextIs _).bind fun _ _ => .skip Keeps.next keep.access
  · refine keep.expression.bind fun _ index => (Keeps.requireSign _).seq ?_
    exact keep.access.after index
  · refine (Keeps.separated _ _ (.group keep.assignment) _).bind fun _ arguments => ?_
    exact keep.access.after arguments
  · exact keep.primary.bind fun _ parts => keep.access.after parts
  · refine .attempted ?_ (.pure Named.isNamed_nil) fun _ arguments => ?_
    · refine (typesKeep fuel).typeArguments.bind fun _ arguments => ?_
      refine (Keeps.nextIs _).bind fun _ _ => Keeps.atEnd.bind fun _ _ => ?_
      exact .ite (.pure arguments) .failure
    · exact keep.access.yields fun _ others => by simp [arguments, others]

theorem StatementsKeep.primary_succ :
    Keeps good (Reader.primary (fuel + 1)) := by
  have nothing : Keeps good (pure [] : Reader (List Tree)) :=
    .pure Named.isNamed_nil
  unfold Reader.primary
  refine Keeps.peek?.bind fun token? _ => ?_
  cases token? with
  | none =>
      exact .failure
  | some token =>
      dsimp only
      split
      · exact Keeps.next.seq keep.functionRest
      · exact Keeps.next.seq keep.classRest
      · exact Keeps.next.seq <| (Keeps.acceptWord _).either keep.functionRest nothing
      · exact Keeps.next.seq nothing
      · exact Keeps.next.seq nothing
      · exact Keeps.next.seq nothing
      · exact Keeps.next.seq nothing
      · exact Keeps.next.seq nothing
      · exact Keeps.next.seq nothing
      · exact Keeps.next.seq nothing
      · exact Keeps.next.seq keep.templateRest
      · refine Keeps.next.seq <| keep.expression.bind fun _ inner => ?_
        refine (typesKeep fuel).optionalType.bind fun _ declared => (Keeps.requireSign _).seq ?_
        exact .pure (by simp [inner, declared])
      · exact Keeps.next.seq keep.arrayRest
      · exact Keeps.next.seq (.separated _ _ (.group keep.objectEntry) _)
      · refine keep.decorators.bind fun _ marks => (Keeps.requireWord _).seq ?_
        exact keep.classRest.after marks
      · exact .failure

theorem StatementsKeep.arrayRest_succ :
    Keeps good (Reader.arrayRest (fuel + 1)) := by
  unfold Reader.arrayRest
  refine (Keeps.acceptSign _).either (.pure Named.isNamed_nil) ?_
  refine (Keeps.acceptSign _).either keep.arrayRest ?_
  refine keep.assignment.bind fun _ first => (Keeps.atSign _).either keep.arrayRest ?_
  exact (Keeps.requireSign _).seq (keep.arrayRest.after first)

theorem StatementsKeep.templateRest_succ :
    Keeps good (Reader.templateRest (fuel + 1)) := by
  unfold Reader.templateRest
  refine keep.expression.bind fun _ first => Keeps.next.bind fun _ _ => ?_
  split
  · exact keep.templateRest.after first
  · exact .pure first
  · exact .failure

theorem StatementsKeep.objectEntry_succ :
    Keeps good (Reader.objectEntry (fuel + 1)) := by
  unfold Reader.objectEntry
  refine (Keeps.acceptSign _).either keep.assignment ?_
  refine (Keeps.modifiers _).seq <| (Keeps.acceptSign _).seq <| Keeps.memberName.seq ?_
  refine (Keeps.atSign _).bind fun _ _ => (Keeps.atSign _).bind fun _ _ => .ite ?_ ?_
  · exact keep.functionHeader.bind fun _ header => keep.block.after header
  · exact (Keeps.acceptSign _).either keep.assignment keep.initializer

theorem StatementsKeep.functionRest_succ :
    Keeps good (Reader.functionRest (fuel + 1)) := by
  unfold Reader.functionRest
  refine (Keeps.acceptSign _).seq <| (Keeps.nextIs _).bind fun _ _ => .skip Keeps.next ?_
  refine keep.functionHeader.bind fun _ header => (Keeps.atSign _).either ?_ ?_
  · exact keep.block.after header
  · exact Keeps.statementEnd.seq (.pure header)

theorem StatementsKeep.decorators_succ :
    Keeps good (Reader.decorators (fuel + 1)) := by
  have goesOn
      {first : List Tree}
      (named : IsNamed good first) :
      Keeps good (pure first >>= fun first => do return first ++ (← Reader.decorators fuel)) :=
    Keeps.bind (.pure named) fun _ => keep.decorators.after
  unfold Reader.decorators
  refine (Keeps.acceptSign _).either ?_ (.pure Named.isNamed_nil)
  refine (Keeps.acceptSign _).either ?_ ?_
  · refine keep.expression.bind fun _ inner => (Keeps.requireSign _).seq ?_
    exact goesOn inner
  · refine (Keeps.dottedName _).seq <| (typesKeep fuel).typeArguments.bind fun _ types => ?_
    refine (Keeps.acceptSign _).perhaps (.separated _ _ (.group keep.assignment) _) ?_
    exact fun _ arguments => goesOn (by simp [types, arguments])

theorem StatementsKeep.classRest_succ :
    Keeps good (Reader.classRest (fuel + 1)) := by
  have goesOn
      {types : Tree}
      (typesNamed : IsNamed good types)
      {base : List Tree}
      (baseNamed : IsNamed good base) :
      Keeps good (pure base >>= fun base => do
        let interfaces ←
          if ← acceptWord "implements" then joined "," (Reader.type fuel) fuel else pure []
        requireSign "\x7b"
        return types :: base ++ interfaces ++ (← Reader.classMembers fuel)) := by
    refine Keeps.bind (.pure baseNamed) fun _ base => ?_
    refine (Keeps.acceptWord _).perhaps ((typesKeep fuel).type.joined _ _) fun _ interfaces => ?_
    refine (Keeps.requireSign _).seq (keep.classMembers.after ?_)
    simp [typesNamed, base, interfaces]
  unfold Reader.classRest
  refine (Keeps.nextIs _).bind fun _ _ => .skip Keeps.next ?_
  refine (typesKeep fuel).typeParameters.bind fun _ types => ?_
  refine (Keeps.acceptWord _).either ?_ (goesOn types Named.isNamed_nil)
  refine keep.operand.bind fun _ base => (typesKeep fuel).typeArguments.bind fun _ arguments => ?_
  exact goesOn types (by simp [base, arguments])

theorem StatementsKeep.classMembers_succ :
    Keeps good (Reader.classMembers (fuel + 1)) := by
  unfold Reader.classMembers
  refine (Keeps.acceptSign _).either (.pure Named.isNamed_nil) ?_
  refine (Keeps.acceptIf _).either keep.classMembers ?_
  exact keep.classMember.bind fun _ first => keep.classMembers.after first

theorem StatementsKeep.classMember_succ :
    Keeps good (Reader.classMember (fuel + 1)) := by
  unfold Reader.classMember
  refine keep.decorators.bind fun _ marks => ?_
  refine (Keeps.atWord _).bind fun _ _ => (Keeps.secondIs _).bind fun _ _ => .ite ?_ ?_
  · exact Keeps.next.seq (keep.block.after marks)
  refine (Keeps.modifiers _).seq <| Keeps.atIndex.either ?_ ?_
  · exact (typesKeep fuel).indexMember.yields fun _ index => by simp [marks, index]
  refine (Keeps.acceptSign _).seq <| Keeps.memberName.seq <| (Keeps.acceptIf _).seq ?_
  refine (Keeps.atSign _).bind fun _ _ => (Keeps.atSign _).bind fun _ _ => .ite ?_ ?_
  · refine keep.functionHeader.bind fun _ header => (Keeps.atSign _).either ?_ ?_
    · exact keep.block.after (by simp [marks, header])
    · exact .pure (by simp [marks, header])
  · refine (typesKeep fuel).optionalType.bind fun _ declared => ?_
    refine keep.initializer.bind fun _ value => ?_
    have named : Keeps good (pure _ : Reader (List Tree)) :=
      .pure (Named.isNamed_append.mpr ⟨Named.isNamed_append.mpr ⟨marks, declared⟩, value⟩)
    exact (Keeps.acceptSign _).either named (Keeps.statementEnd.seq named)

theorem StatementsKeep.block_succ :
    Keeps good (Reader.block (fuel + 1)) := by
  unfold Reader.block
  exact (Keeps.requireSign _).seq keep.blockRest

theorem StatementsKeep.blockRest_succ :
    Keeps good (Reader.blockRest (fuel + 1)) := by
  unfold Reader.blockRest
  refine (Keeps.acceptSign _).either (.pure Named.isNamed_nil) ?_
  exact keep.statement.bind fun _ first => keep.blockRest.after first

theorem StatementsKeep.declarators_succ :
    Keeps good (Reader.declarators (fuel + 1)) := by
  unfold Reader.declarators
  refine keep.pattern.bind fun _ name => (Keeps.acceptSign _).seq ?_
  refine (typesKeep fuel).optionalType.bind fun _ declared => ?_
  refine keep.initializer.bind fun _ value => ?_
  have first := Named.isNamed_append.mpr ⟨Named.isNamed_append.mpr ⟨name, declared⟩, value⟩
  exact (Keeps.acceptSign _).either (keep.declarators.after first) (.pure first)

theorem StatementsKeep.condition_succ :
    Keeps good (Reader.condition (fuel + 1)) := by
  unfold Reader.condition
  refine (Keeps.requireSign _).seq <| keep.expression.bind fun _ inner => ?_
  exact (Keeps.requireSign _).seq (.pure inner)

theorem StatementsKeep.loopHeader_succ :
    Keeps good (Reader.loopHeader (fuel + 1)) := by
  unfold Reader.loopHeader
  exact (Keeps.acceptWord _).seq <| (Keeps.requireSign _).seq keep.loopParts

theorem StatementsKeep.loopParts_succ :
    Keeps good (Reader.loopParts (fuel + 1)) := by
  unfold Reader.loopParts
  refine (Keeps.acceptSign _).either (.pure Named.isNamed_nil) ?_
  refine (Keeps.acceptSign _).either keep.loopParts ?_
  refine (Keeps.acceptWord _).either ?_ <| (Keeps.acceptWord _).either ?_ <|
    (Keeps.acceptIf _).either ?_ ?_
  · exact keep.assignment.bind fun _ source => keep.loopParts.after source
  · exact keep.expression.bind fun _ source => keep.loopParts.after source
  · exact keep.declarators.bind fun _ names => keep.loopParts.after names
  · exact keep.expression.bind fun _ part => keep.loopParts.after part

theorem StatementsKeep.cases_succ :
    Keeps good (Reader.cases (fuel + 1)) := by
  unfold Reader.cases
  refine (Keeps.acceptSign _).either (.pure Named.isNamed_nil) ?_
  refine (Keeps.acceptWord _).either ?_ ?_
  · refine keep.expression.bind fun _ value => (Keeps.requireSign _).seq ?_
    exact keep.cases.after value
  refine (Keeps.atWord _).bind fun _ _ => (Keeps.secondIs _).bind fun _ _ => .ite ?_ ?_
  · exact Keeps.next.seq <| Keeps.next.seq keep.cases
  · exact keep.statement.bind fun _ first => keep.cases.after first

theorem StatementsKeep.module_succ :
    Keeps good (Reader.module (fuel + 1)) := by
  unfold Reader.module
  refine (Keeps.acceptIf _).bind fun _ _ => .skip (Keeps.dottedName _) ?_
  exact (Keeps.atSign _).either keep.block (Keeps.statementEnd.seq (.pure Named.isNamed_nil))

theorem StatementsKeep.exported_succ :
    Keeps good (Reader.exported (fuel + 1)) := by
  have ended : Keeps good (do statementEnd; return ([] : List Tree)) :=
    Keeps.statementEnd.seq (.pure Named.isNamed_nil)
  unfold Reader.exported
  refine (Keeps.acceptSign _).either ?_ <| (Keeps.acceptWord _).either ?_ ?_
  · exact keep.expression.bind fun _ value => Keeps.statementEnd.seq (.pure value)
  · refine (Keeps.nextIs _).bind fun _ _ => (Keeps.atWord _).bind fun _ _ => ?_
    refine (Keeps.secondIs _).bind fun _ _ => .ite keep.statement ?_
    exact keep.assignment.bind fun _ value => Keeps.statementEnd.seq (.pure value)
  refine (Keeps.atSign _).bind fun _ _ => (Keeps.atSign _).bind fun _ _ => ?_
  refine (Keeps.atWord _).bind fun _ _ => (Keeps.secondIs _).bind fun _ _ => .ite ?_ ?_
  · exact (Keeps.importClause _).seq ended
  refine (Keeps.atWord _).bind fun _ _ => (Keeps.secondIs _).bind fun _ _ => .ite ?_ keep.statement
  exact Keeps.next.seq <| Keeps.next.seq <| Keeps.anyWord.seq ended

theorem StatementsKeep.statement_succ :
    Keeps good (Reader.statement (fuel + 1)) := by
  unfold Reader.statement
  refine Keeps.peek?.bind fun token? _ => ?_
  cases token? with
  | none =>
      exact .failure
  | some token =>
      dsimp only
      split
      · exact Keeps.next.seq (.pure Named.isNamed_nil)
      · exact keep.block
      · exact keep.decorators.bind fun _ marks => keep.statement.after marks
      · exact keep.wordStatement _
      · exact keep.expressionStatement

theorem StatementsKeep.expressionStatement_succ :
    Keeps good (Reader.expressionStatement (fuel + 1)) := by
  unfold Reader.expressionStatement
  exact keep.expression.bind fun _ value => Keeps.statementEnd.seq (.pure value)

/-- What follows the block that is tried. -/
theorem StatementsKeep.handlers
    {tried : List Tree}
    (given : IsNamed good tried) :
    Keeps good (do
      let handler ←
        if ← acceptWord "catch" then
          let bound ←
            if ← acceptSign "(" then
              let name ← Reader.pattern fuel
              let declared ← optionalType fuel
              requireSign ")"
              pure (name ++ declared)
            else pure []
          pure (bound ++ (← Reader.block fuel))
        else pure []
      let cleanup ← if ← acceptWord "finally" then Reader.block fuel else pure []
      return tried ++ handler ++ cleanup) := by
  have cleanedUp
      {handler : List Tree}
      (named : IsNamed good handler) :
      Keeps good (pure handler >>= fun handler => do
        let cleanup ← if ← acceptWord "finally" then Reader.block fuel else pure []
        return tried ++ handler ++ cleanup) := by
    refine Keeps.bind (.pure named) fun _ handler => ?_
    refine (Keeps.acceptWord _).perhaps keep.block fun _ cleanup => .pure ?_
    simp [given, handler, cleanup]
  have handled
      (bound : List Tree)
      (named : IsNamed good bound) :=
    keep.block.bind fun _ block => cleanedUp (Named.isNamed_append.mpr ⟨named, block⟩)
  refine (Keeps.acceptWord _).either ?_ (cleanedUp Named.isNamed_nil)
  refine (Keeps.acceptSign _).either ?_ (Keeps.bind (.pure Named.isNamed_nil) handled)
  refine keep.pattern.bind fun _ name => (typesKeep fuel).optionalType.bind fun _ declared => ?_
  exact (Keeps.requireSign _).seq <| Keeps.bind (.pure (by simp [name, declared])) handled

/-- The cases are those of the first word, in the order of the definition. -/
theorem StatementsKeep.wordStatement_succ
    (spelling : String) :
    Keeps good (Reader.wordStatement spelling (fuel + 1)) := by
  have ended :
      Keeps good (do statementEnd; return ([] : List Tree)) :=
    Keeps.statementEnd.seq (.pure Named.isNamed_nil)
  have bindings :
      Keeps good (do
        let names ← Reader.declarators fuel
        statementEnd
        return names) :=
    keep.declarators.bind fun _ names => Keeps.statementEnd.seq (.pure names)
  have controlled :
      Keeps good (do
        let test ← Reader.condition fuel
        return test ++ (← Reader.statement fuel)) :=
    keep.condition.bind fun _ test => keep.statement.after test
  have orExpression
      {condition : Bool}
      {other : Reader (List Tree)}
      (keeps : Keeps good other) :
      Keeps good (if condition = true then next >>= fun _ => other
        else Reader.expressionStatement fuel) :=
    .ite (Keeps.next.seq keeps) keep.expressionStatement
  unfold Reader.wordStatement
  refine Keeps.wordFollows.bind fun _ _ => (Keeps.secondIs _).bind fun _ _ => ?_
  split
  · exact (Keeps.secondIs _).either keep.expressionStatement <|
      Keeps.next.seq <| (Keeps.importClause _).seq ended
  · exact Keeps.next.seq keep.exported
  · exact orExpression keep.statement
  · exact (Keeps.secondIs _).bind fun _ _ => orExpression keep.block
  · exact orExpression (.typeAlias fuel)
  · exact orExpression (.interface fuel)
  · exact orExpression keep.module
  · exact orExpression keep.module
  · exact Keeps.next.seq <| Keeps.anyWord.seq <| (Keeps.requireSign _).seq <|
      .separated _ _ (.group keep.objectEntry) _
  · exact orExpression keep.statement
  · exact Keeps.next.seq keep.classRest
  · exact Keeps.next.seq keep.functionRest
  · exact (Keeps.secondIs _).bind fun _ _ => orExpression (Keeps.next.seq keep.functionRest)
  · exact Keeps.next.seq <| (Keeps.atWord _).either keep.statement bindings
  · exact Keeps.next.seq bindings
  · exact Keeps.next.seq bindings
  · refine Keeps.next.seq <| keep.condition.bind fun _ test => ?_
    refine keep.statement.bind fun _ whenTrue => (Keeps.acceptWord _).perhaps keep.statement ?_
    exact fun _ whenFalse => .pure (by simp [test, whenTrue, whenFalse])
  · exact Keeps.next.seq <| keep.loopHeader.bind fun _ header => keep.statement.after header
  · exact Keeps.next.seq controlled
  · exact Keeps.next.seq controlled
  · refine Keeps.next.seq <| keep.statement.bind fun _ body => (Keeps.requireWord _).seq ?_
    refine keep.condition.bind fun _ test => (Keeps.acceptSign _).seq (.pure ?_)
    exact Named.isNamed_append.mpr ⟨body, test⟩
  · refine Keeps.next.seq <| keep.condition.bind fun _ test => (Keeps.requireSign _).seq ?_
    exact keep.cases.after test
  · exact Keeps.next.seq <| keep.block.bind fun _ => keep.handlers
  · exact Keeps.next.seq <| Keeps.atEnd.either ended keep.expressionStatement
  · exact Keeps.next.seq <| Keeps.atEnd.either ended keep.expressionStatement
  · exact Keeps.next.seq <| Keeps.atEnd.bind fun _ _ => .skip Keeps.anyWord ended
  · exact Keeps.next.seq <| Keeps.atEnd.bind fun _ _ => .skip Keeps.anyWord ended
  · exact Keeps.next.seq <| Keeps.atEnd.bind fun _ _ => .skip Keeps.anyWord ended
  · refine (Keeps.secondIs _).either ?_ keep.expressionStatement
    exact Keeps.next.seq <| Keeps.next.seq keep.statement

theorem StatementsKeep.succ :
    StatementsKeep good (fuel + 1) where
  expression := keep.expression_succ
  assignment := keep.assignment_succ
  attemptArrow := keep.attemptArrow_succ
  arrowHeader := keep.arrowHeader_succ
  arrowBody := keep.arrowBody_succ
  functionHeader := keep.functionHeader_succ
  argument := keep.argument_succ
  pattern := keep.pattern_succ
  initializer := keep.initializer_succ
  operations := keep.operations_succ
  operand := keep.operand_succ
  access := keep.access_succ
  primary := keep.primary_succ
  arrayRest := keep.arrayRest_succ
  templateRest := keep.templateRest_succ
  objectEntry := keep.objectEntry_succ
  functionRest := keep.functionRest_succ
  decorators := keep.decorators_succ
  classRest := keep.classRest_succ
  classMembers := keep.classMembers_succ
  classMember := keep.classMember_succ
  block := keep.block_succ
  blockRest := keep.blockRest_succ
  declarators := keep.declarators_succ
  condition := keep.condition_succ
  loopHeader := keep.loopHeader_succ
  loopParts := keep.loopParts_succ
  cases := keep.cases_succ
  module := keep.module_succ
  exported := keep.exported_succ
  statement := keep.statement_succ
  expressionStatement := keep.expressionStatement_succ
  wordStatement := keep.wordStatement_succ

end

theorem statementsKeep
    (fuel : Nat) :
    StatementsKeep good fuel := by
  induction fuel with
  | zero =>
      constructor <;> intros <;> exact Keeps.failure
  | succ fuel inductionHypothesis =>
      exact inductionHypothesis.succ

/-- The trees of statements have the names of the tokens that they are read from. -/
theorem isNamed_statements
    (steps fuel : Nat)
    {tokens : List Token}
    (given : IsNamed good tokens) :
    IsNamed good (statements steps fuel tokens).trees := by
  fun_induction statements steps fuel tokens with
  | case1 | case2 | case3 =>
      exact Named.isNamed_nil
  | case4 fuel tokens _ trees rest reads others inductionHypothesis =>
      obtain ⟨named, left⟩ := (statementsKeep steps).statement.isNamed given reads
      exact Named.isNamed_cons.mpr
        ⟨Tree.isNamed_group.mpr named, inductionHypothesis left⟩

end Reader

/-- The tables of a text are named by words that stand in it. -/
theorem good_of_mem_tablesOfText
    {text : String}
    (given : IsNamed good (tokens text)) :
    ∀ table ∈ tablesOfText text, good table :=
  Tree.good_of_mem_tables (Tree.isNamed_group.mpr (Reader.isNamed_statements _ _ given))

end Tablewright.Schema
