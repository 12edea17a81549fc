import Tablewright.Schema.Grammar.Type

/-!
# Statements of a schema

Readers for everything around types: expressions, functions, classes and statements. No more of
their structure is kept than the types they hold, so operators are taken one after another without
regard to their rank.
-/

namespace Tablewright.Schema

namespace Reader

/-- Signs before an operand. -/
def leadingSigns : List String := ["+", "-", "!", "~", "++", "--", "..."]

/-- Words before an operand. -/
def leadingWords : List String := ["typeof", "void", "delete", "await", "yield"]

/-- Signs between operands. -/
def operatorSigns : List String :=
  ["+", "-", "*", "/", "%", "**", "==", "!=", "===", "!==", "&&", "||", "??", "&", "|", "^", "=",
    "+=", "-=", "*=", "/=", "%=", "**=", "&=", "|=", "^=", "&&=", "||=", "??="]

/-- Whether a token can follow arguments in angle brackets in an expression. -/
def followsArguments
    (token : Token) : Bool :=
  match token.kind with
  | .sign spelling =>
      ["(", ")", "]", "\x7d", ",", ";", ":", ".", "?.", "=", "==", "===", "!=", "!==", "&&", "||",
        "??"].contains spelling
  | .template | .templateHead => true
  | _ => false

/-- Whether an arrow function begins here, its parameters in brackets. -/
def atArrow : Reader Bool := do
  let arrow ← lookAhead do
    let _ ← acceptWord "async"
    requireSign "("
    fun tokens => (afterBrackets? 1 tokens).map fun rest => ((), rest)
    require fun token => token.isSign "=>" || token.isSign ":"
  return arrow.isSome

/-- Takes the signs that stand together for one comparison or shift. -/
def angleOperator : Nat → Reader Unit
  | 0 => return ()
  | fuel + 1 => do
      let isPart (token : Token) : Bool :=
        token.isSign ">" || token.isSign "<" || token.isSign "="
      if ← acceptIf isPart then angleOperator fuel else return ()

/-- Takes what names another module, and what is imported from it. -/
def importClause : Nat → Reader Unit
  | 0 => failure
  | fuel + 1 => do
      if ← atEnd then
        return ()
      else if ← nextIs Token.isOpening then
        skipBrackets
        importClause fuel
      else
        let _ ← next
        importClause fuel

/-- Whether a declaration follows a word on the same line. -/
def wordFollows : Reader Bool :=
  secondIs fun token => token.word?.isSome && !token.afterLineBreak

def group
    (trees : Reader (List Tree)) : Reader Tree :=
  return .group (← trees)

mutual

/-- Expressions with commas between them. -/
def expression : Nat → Reader (List Tree)
  | 0 => failure
  | fuel + 1 => do
      let first ← assignment fuel
      if ← acceptSign "," then
        return first ++ (← expression fuel)
      else
        return first

/-- An expression without a comma at its top. -/
def assignment : Nat → Reader (List Tree)
  | 0 => failure
  | fuel + 1 => do
      match ← attemptArrow fuel with
      | some parts => return parts
      | none =>
          let first ← operand fuel
          return first ++ (← operations fuel)

/-- An arrow function, if one begins here. -/
def attemptArrow : Nat → Reader (Option (List Tree))
  | 0 => failure
  | fuel + 1 => do
      let isPlain ← secondIs fun token => token.isSign "=>"
      if isPlain && (← nextIs fun token => token.word?.isSome) then
        let _ ← next
        let _ ← next
        return some (← arrowBody fuel)
      else if (← atWord "async") && (← secondIs fun token => token.word?.isSome) then
        let header ← attempt do
          requireWord "async"
          let _ ← anyWord
          requireSign "=>"
        match header with
        | some () => return some (← arrowBody fuel)
        | none => return none
      else if ← atArrow then
        let header ← attempt (arrowHeader fuel)
        match header with
        | some types => return some (types ++ (← arrowBody fuel))
        | none => return none
      else if (← atSign "<") || ((← atWord "async") && (← secondIs fun token => token.isSign "<"))
      then
        let header ← attempt (arrowHeader fuel)
        match header with
        | some types => return some (types ++ (← arrowBody fuel))
        | none => return none
      else
        return none

/-- The parameters and the result of an arrow function, with the arrow. -/
def arrowHeader : Nat → Reader (List Tree)
  | 0 => failure
  | fuel + 1 => do
      let _ ← acceptWord "async"
      let types ← functionHeader fuel
      requireSign "=>"
      return types

/-- What an arrow function does. -/
def arrowBody : Nat → Reader (List Tree)
  | 0 => failure
  | fuel + 1 => do
      if ← atSign "\x7b" then block fuel else assignment fuel

/-- Parameters of types, parameters, and the type of the result if it is given. -/
def functionHeader : Nat → Reader (List Tree)
  | 0 => failure
  | fuel + 1 => do
      let types ← typeParameters fuel
      requireSign "("
      let arguments ← separated "," ")" (group (argument fuel)) fuel
      let result ← optionalType fuel
      return types :: arguments ++ result

/-- A parameter of a function. -/
def argument : Nat → Reader (List Tree)
  | 0 => failure
  | fuel + 1 => do
      let marks ← decorators fuel
      let _ ← acceptSign "..."
      modifiers fuel
      let name ← pattern fuel
      let _ ← acceptSign "?"
      let declared ← optionalType fuel
      let default ← initializer fuel
      return marks ++ name ++ declared ++ default

/-- A name, or brackets that take a value apart. -/
def pattern : Nat → Reader (List Tree)
  | 0 => failure
  | fuel + 1 => do
      if (← atSign "\x7b") || (← atSign "[") then
        primary fuel
      else
        let _ ← anyWord
        return []

/-- A value after an equals sign, if there is one. -/
def initializer : Nat → Reader (List Tree)
  | 0 => failure
  | fuel + 1 => do
      if ← acceptSign "=" then assignment fuel else return []

/-- The operators after an operand, with their operands. -/
def operations : Nat → Reader (List Tree)
  | 0 => failure
  | fuel + 1 => do
      let isTyping (token : Token) : Bool :=
        (token.isWord "as" || token.isWord "satisfies") && !token.afterLineBreak
      let isOperator (token : Token) : Bool :=
        match token.kind with
        | .sign spelling => operatorSigns.contains spelling
        | .word spelling => spelling == "in" || spelling == "instanceof"
        | _ => false
      if ← acceptIf isTyping then
        let type ← type fuel
        return type :: (← operations fuel)
      else if ← acceptSign "?" then
        let whenTrue ← assignment fuel
        requireSign ":"
        return whenTrue ++ (← assignment fuel)
      else if ← acceptIf isOperator then
        return ← assignment fuel
      else if ← nextIs fun token => token.isSign "<" || token.isSign ">" then
        angleOperator 4
        return ← assignment fuel
      else
        return []

/-- An operand with the signs and words before it. -/
def operand : Nat → Reader (List Tree)
  | 0 => failure
  | fuel + 1 => do
      let isLeading (token : Token) : Bool :=
        match token.kind with
        | .sign spelling => leadingSigns.contains spelling
        | .word spelling => leadingWords.contains spelling
        | _ => false
      if ← acceptIf isLeading then
        let _ ← acceptSign "*"
        let isOver ← nextIs fun token =>
          token.isSign ";" || token.isSign ")" || token.isSign "\x7d" || token.isSign "," ||
            token.isSign "]"
        if isOver then return [] else operand fuel
      else if ← acceptSign "<" then
        let type ← type fuel
        requireSign ">"
        return type :: (← operand fuel)
      else if ← acceptWord "new" then
        if ← acceptSign "." then
          let _ ← anyWord
          access fuel
        else
          operand fuel
      else
        let first ← primary fuel
        return first ++ (← access fuel)

/-- What is done with an operand at once: members, calls and the like. -/
def access : Nat → Reader (List Tree)
  | 0 => failure
  | fuel + 1 => do
      if ← acceptSign "." then
        let _ ← next
        access fuel
      else if ← acceptSign "?." then
        if ← nextIs fun token => token.word?.isSome || token.kind == .privateName then
          let _ ← next
        access fuel
      else if ← acceptSign "[" then
        let index ← expression fuel
        requireSign "]"
        return index ++ (← access fuel)
      else if ← acceptSign "(" then
        let arguments ← separated "," ")" (group (assignment fuel)) fuel
        return arguments ++ (← access fuel)
      else if ← nextIs fun token => token.kind == .template || token.kind == .templateHead then
        let parts ← primary fuel
        return parts ++ (← access fuel)
      else if ← acceptIf fun token =>
          (token.isSign "!" || token.isSign "++" || token.isSign "--") && !token.afterLineBreak then
        access fuel
      else if ← atSign "<" then
        let arguments ← attempt do
          let arguments ← typeArguments fuel
          let isFollowed ← nextIs followsArguments
          if isFollowed || (← atEnd) then return arguments else failure
        match arguments with
        | some arguments => return arguments :: (← access fuel)
        | none => return []
      else
        return []

/-- An operand by itself. -/
def primary : Nat → Reader (List Tree)
  | 0 => failure
  | fuel + 1 => do
      match ← peek? with
      | none => failure
      | some token =>
          match token.kind with
          | .word "function" =>
              let _ ← next
              functionRest fuel
          | .word "class" =>
              let _ ← next
              classRest fuel
          | .word "async" =>
              let _ ← next
              if ← acceptWord "function" then functionRest fuel else return []
          | .word "import" =>
              let _ ← next
              return []
          | .word _ | .privateName | .string | .number | .regex | .template =>
              let _ ← next
              return []
          | .templateHead =>
              let _ ← next
              templateRest fuel
          | .sign "(" =>
              let _ ← next
              let inner ← expression fuel
              let declared ← optionalType fuel
              requireSign ")"
              return inner ++ declared
          | .sign "[" =>
              let _ ← next
              arrayRest fuel
          | .sign "\x7b" =>
              let _ ← next
              separated "," "\x7d" (group (objectEntry fuel)) fuel
          | .sign "@" =>
              let marks ← decorators fuel
              requireWord "class"
              return marks ++ (← classRest fuel)
          | _ => failure

/-- The elements of an array, some of which may be left out. -/
def arrayRest : Nat → Reader (List Tree)
  | 0 => failure
  | fuel + 1 => do
      if ← acceptSign "]" then
        return []
      else if ← acceptSign "," then
        arrayRest fuel
      else
        let first ← assignment fuel
        if ← atSign "]" then
          arrayRest fuel
        else
          requireSign ","
          return first ++ (← arrayRest fuel)

/-- The insertions of a template. -/
def templateRest : Nat → Reader (List Tree)
  | 0 => failure
  | fuel + 1 => do
      let first ← expression fuel
      match (← next).kind with
      | .templateMiddle => return first ++ (← templateRest fuel)
      | .templateTail => return first
      | _ => failure

def objectEntry : Nat → Reader (List Tree)
  | 0 => failure
  | fuel + 1 => do
      if ← acceptSign "..." then
        assignment fuel
      else
        modifiers fuel
        let _ ← acceptSign "*"
        let _ ← memberName
        if (← atSign "(") || (← atSign "<") then
          let header ← functionHeader fuel
          return header ++ (← block fuel)
        else if ← acceptSign ":" then
          assignment fuel
        else
          initializer fuel

/-- A function after the word for it. -/
def functionRest : Nat → Reader (List Tree)
  | 0 => failure
  | fuel + 1 => do
      let _ ← acceptSign "*"
      if ← nextIs fun token => token.word?.isSome then
        let _ ← next
      let header ← functionHeader fuel
      if ← atSign "\x7b" then
        return header ++ (← block fuel)
      else
        statementEnd
        return header

def decorators : Nat → Reader (List Tree)
  | 0 => failure
  | fuel + 1 => do
      if ← acceptSign "@" then
        let first ←
          if ← acceptSign "(" then
            let inner ← expression fuel
            requireSign ")"
            pure inner
          else
            dottedName fuel
            let types ← typeArguments fuel
            let arguments ←
              if ← acceptSign "(" then separated "," ")" (group (assignment fuel)) fuel
              else pure []
            pure (types :: arguments)
        return first ++ (← decorators fuel)
      else
        return []

/-- A class after the word for it. -/
def classRest : Nat → Reader (List Tree)
  | 0 => failure
  | fuel + 1 => do
      let isName ← nextIs fun token =>
        token.word?.isSome && !token.isWord "extends" && !token.isWord "implements"
      if isName then
        let _ ← next
      let types ← typeParameters fuel
      let base ←
        if ← acceptWord "extends" then
          let base ← operand fuel
          let arguments ← typeArguments fuel
          pure (base ++ [arguments])
        else pure []
      let interfaces ←
        if ← acceptWord "implements" then joined "," (type fuel) fuel else pure []
      requireSign "\x7b"
      return types :: base ++ interfaces ++ (← classMembers fuel)

/-- The members of a class up to its closing brace. -/
def classMembers : Nat → Reader (List Tree)
  | 0 => failure
  | fuel + 1 => do
      if ← acceptSign "\x7d" then
        return []
      else if ← acceptIf fun token => token.isSign ";" || token.isSign "," then
        classMembers fuel
      else
        let first ← classMember fuel
        return first ++ (← classMembers fuel)

def classMember : Nat → Reader (List Tree)
  | 0 => failure
  | fuel + 1 => do
      let marks ← decorators fuel
      if (← atWord "static") && (← secondIs fun token => token.isSign "\x7b") then
        let _ ← next
        return marks ++ (← block fuel)
      modifiers fuel
      if ← atIndex then
        let index ← indexMember fuel
        return marks ++ [index]
      else
        let _ ← acceptSign "*"
        let _ ← memberName
        let _ ← acceptIf fun token => token.isSign "?" || token.isSign "!"
        if (← atSign "(") || (← atSign "<") then
          let header ← functionHeader fuel
          if ← atSign "\x7b" then
            return marks ++ header ++ (← block fuel)
          else
            return marks ++ header
        else
          let declared ← optionalType fuel
          let value ← initializer fuel
          if ← acceptSign "," then
            return marks ++ declared ++ value
          else
            statementEnd
            return marks ++ declared ++ value

/-- Statements in braces. -/
def block : Nat → Reader (List Tree)
  | 0 => failure
  | fuel + 1 => do
      requireSign "\x7b"
      blockRest fuel

/-- Statements up to the closing brace. -/
def blockRest : Nat → Reader (List Tree)
  | 0 => failure
  | fuel + 1 => do
      if ← acceptSign "\x7d" then
        return []
      else
        let first ← statement fuel
        return first ++ (← blockRest fuel)

/-- A declaration of variables after the word for it. -/
def declarators : Nat → Reader (List Tree)
  | 0 => failure
  | fuel + 1 => do
      let name ← pattern fuel
      let _ ← acceptSign "!"
      let declared ← optionalType fuel
      let value ← initializer fuel
      let first := name ++ declared ++ value
      if ← acceptSign "," then
        return first ++ (← declarators fuel)
      else
        return first

/-- An expression in brackets. -/
def condition : Nat → Reader (List Tree)
  | 0 => failure
  | fuel + 1 => do
      requireSign "("
      let inner ← expression fuel
      requireSign ")"
      return inner

/-- What a loop with brackets is controlled by. -/
def loopHeader : Nat → Reader (List Tree)
  | 0 => failure
  | fuel + 1 => do
      let _ ← acceptWord "await"
      requireSign "("
      loopParts fuel

/-- The parts of a loop header up to its closing bracket. -/
def loopParts : Nat → Reader (List Tree)
  | 0 => failure
  | fuel + 1 => do
      if ← acceptSign ")" then
        return []
      else if ← acceptSign ";" then
        loopParts fuel
      else if ← acceptWord "of" then
        let source ← assignment fuel
        return source ++ (← loopParts fuel)
      else if ← acceptWord "in" then
        let source ← expression fuel
        return source ++ (← loopParts fuel)
      else if ← acceptIf fun token =>
          token.isWord "let" || token.isWord "const" || token.isWord "var" then
        let names ← declarators fuel
        return names ++ (← loopParts fuel)
      else
        let part ← expression fuel
        return part ++ (← loopParts fuel)

/-- The cases of a choice up to the closing brace. -/
def cases : Nat → Reader (List Tree)
  | 0 => failure
  | fuel + 1 => do
      if ← acceptSign "\x7d" then
        return []
      else if ← acceptWord "case" then
        let value ← expression fuel
        requireSign ":"
        return value ++ (← cases fuel)
      else if (← atWord "default") && (← secondIs fun token => token.isSign ":") then
        let _ ← next
        let _ ← next
        cases fuel
      else
        let first ← statement fuel
        return first ++ (← cases fuel)

/-- A type with a name of its own, after the word for it. -/
def typeAlias : Nat → Reader (List Tree)
  | 0 => failure
  | fuel + 1 => do
      let _ ← anyWord
      let types ← typeParameters fuel
      requireSign "="
      let aliased ← type fuel
      statementEnd
      return [types, aliased]

/-- An interface after the word for it. Its body is no object type. -/
def interface : Nat → Reader (List Tree)
  | 0 => failure
  | fuel + 1 => do
      let _ ← anyWord
      let types ← typeParameters fuel
      let bases ← if ← acceptWord "extends" then joined "," (type fuel) fuel else pure []
      let body ← memberBlock fuel
      return types :: bases ++ [.group body]

/-- A module after the word for it. -/
def module : Nat → Reader (List Tree)
  | 0 => failure
  | fuel + 1 => do
      if !(← acceptIf fun token => token.kind == .string) then
        dottedName fuel
      if ← atSign "\x7b" then
        block fuel
      else
        statementEnd
        return []

/-- What is exported, after the word for it. -/
def exported : Nat → Reader (List Tree)
  | 0 => failure
  | fuel + 1 => do
      if ← acceptSign "=" then
        let value ← expression fuel
        statementEnd
        return value
      else if ← acceptWord "default" then
        let isDeclaration ← nextIs fun token =>
          token.isWord "interface" || token.isWord "abstract" || token.isWord "class" ||
            token.isWord "function" || token.isSign "@"
        let isAsync := (← atWord "async") && (← secondIs fun token => token.isWord "function")
        if isDeclaration || isAsync then
          statement fuel
        else
          let value ← assignment fuel
          statementEnd
          return value
      else if (← atSign "\x7b") || (← atSign "*") ||
          ((← atWord "type") &&
            (← secondIs fun token => token.isSign "\x7b" || token.isSign "*")) then
        importClause fuel
        statementEnd
        return []
      else if (← atWord "as") && (← secondIs fun token => token.isWord "namespace") then
        let _ ← next
        let _ ← next
        let _ ← anyWord
        statementEnd
        return []
      else
        statement fuel

def statement : Nat → Reader (List Tree)
  | 0 => failure
  | fuel + 1 => do
      match ← peek? with
      | none => failure
      | some token =>
          match token.kind with
          | .sign ";" =>
              let _ ← next
              return []
          | .sign "\x7b" => block fuel
          | .sign "@" =>
              let marks ← decorators fuel
              return marks ++ (← statement fuel)
          | .word spelling => wordStatement spelling fuel
          | _ => expressionStatement fuel

def expressionStatement : Nat → Reader (List Tree)
  | 0 => failure
  | fuel + 1 => do
      let value ← expression fuel
      statementEnd
      return value

/-- A statement that begins with a word. -/
def wordStatement
    (spelling : String) : Nat → Reader (List Tree)
  | 0 => failure
  | fuel + 1 => do
      let declares ← wordFollows
      let isNamed ← secondIs fun token =>
        (token.word?.isSome || token.kind == .string) && !token.afterLineBreak
      match spelling with
      | "import" =>
          if ← secondIs fun token => token.isSign "(" || token.isSign "." then
            expressionStatement fuel
          else
            let _ ← next
            importClause fuel
            statementEnd
            return []
      | "export" =>
          let _ ← next
          exported fuel
      | "declare" =>
          if declares then
            let _ ← next
            statement fuel
          else
            expressionStatement fuel
      | "global" =>
          if ← secondIs fun token => token.isSign "\x7b" then
            let _ ← next
            block fuel
          else
            expressionStatement fuel
      | "type" =>
          if declares then
            let _ ← next
            typeAlias fuel
          else
            expressionStatement fuel
      | "interface" =>
          if declares then
            let _ ← next
            interface fuel
          else
            expressionStatement fuel
      | "module" | "namespace" =>
          if isNamed then
            let _ ← next
            module fuel
          else
            expressionStatement fuel
      | "enum" =>
          let _ ← next
          let _ ← anyWord
          requireSign "\x7b"
          separated "," "\x7d" (group (objectEntry fuel)) fuel
      | "abstract" =>
          if declares then
            let _ ← next
            statement fuel
          else
            expressionStatement fuel
      | "class" =>
          let _ ← next
          classRest fuel
      | "function" =>
          let _ ← next
          functionRest fuel
      | "async" =>
          if ← secondIs fun token => token.isWord "function" && !token.afterLineBreak then
            let _ ← next
            let _ ← next
            functionRest fuel
          else
            expressionStatement fuel
      | "const" =>
          let _ ← next
          if ← atWord "enum" then
            statement fuel
          else
            let names ← declarators fuel
            statementEnd
            return names
      | "let" | "var" =>
          let _ ← next
          let names ← declarators fuel
          statementEnd
          return names
      | "if" =>
          let _ ← next
          let test ← condition fuel
          let whenTrue ← statement fuel
          let whenFalse ← if ← acceptWord "else" then statement fuel else pure []
          return test ++ whenTrue ++ whenFalse
      | "for" =>
          let _ ← next
          let header ← loopHeader fuel
          return header ++ (← statement fuel)
      | "while" | "with" =>
          let _ ← next
          let test ← condition fuel
          return test ++ (← statement fuel)
      | "do" =>
          let _ ← next
          let body ← statement fuel
          requireWord "while"
          let test ← condition fuel
          let _ ← acceptSign ";"
          return body ++ test
      | "switch" =>
          let _ ← next
          let test ← condition fuel
          requireSign "\x7b"
          return test ++ (← cases fuel)
      | "try" =>
          let _ ← next
          let body ← block fuel
          let handler ←
            if ← acceptWord "catch" then
              let bound ←
                if ← acceptSign "(" then
                  let name ← pattern fuel
                  let declared ← optionalType fuel
                  requireSign ")"
                  pure (name ++ declared)
                else pure []
              pure (bound ++ (← block fuel))
            else pure []
          let cleanup ← if ← acceptWord "finally" then block fuel else pure []
          return body ++ handler ++ cleanup
      | "return" | "throw" =>
          let _ ← next
          if ← atEnd then
            statementEnd
            return []
          else
            expressionStatement fuel
      | "break" | "continue" | "debugger" =>
          let _ ← next
          if !(← atEnd) then
            let _ ← anyWord
          statementEnd
          return []
      | _ =>
          if ← secondIs fun token => token.isSign ":" then
            let _ ← next
            let _ ← next
            statement fuel
          else
            expressionStatement fuel

end

/-- What was read of a text: the trees of its statements up to the first that is not well formed,
and whether there is such a one. -/
structure Reading where
  trees : List Tree
  broken : Bool
  deriving Repr

/-- The statements of tokens, at most `fuel` of them. -/
def statements
    (steps : Nat) : Nat → List Token → Reading
  | _, [] => ⟨[], false⟩
  | 0, _ => ⟨[], true⟩
  | fuel + 1, tokens =>
      match statement steps tokens with
      | none => ⟨[], true⟩
      | some (trees, rest) =>
          let others := statements steps fuel rest
          ⟨.group trees :: others.trees, others.broken⟩

end Reader

end Tablewright.Schema
