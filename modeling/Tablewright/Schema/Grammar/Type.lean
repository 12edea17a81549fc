import Tablewright.Schema.Grammar.Basic

/-!
# Types of a schema

Readers for types. The tree of a type is an object type only if the type is written as one; in
brackets, with an operator or as part of anything else it stands below another node.
-/

namespace Tablewright.Schema

namespace Reader

/-- Words that can stand before the name of a member. -/
def memberModifiers : List String :=
  ["public", "private", "protected", "static", "override", "readonly", "async", "get", "set",
    "declare", "abstract", "accessor"]

/-- Whether the name of a member can begin with a token. -/
def startsName
    (token : Token) : Bool :=
  match token.kind with
  | .word _ => true
  | .privateName => true
  | .string => true
  | .number => true
  | .sign spelling => spelling == "[" || spelling == "*"
  | _ => false

/-- Takes the modifiers of a member, in at most `fuel` steps. A modifier stands on the line of what
follows it; else it is a name. -/
def modifiers : Nat → Reader Unit
  | 0 => failure
  | fuel + 1 => do
      let isModifier ← nextIs fun token => (token.word?.map memberModifiers.contains).getD false
      let isFollowed ← secondIs fun token => startsName token && !token.afterLineBreak
      if isModifier && isFollowed then
        let _ ← next
        modifiers fuel
      else
        return ()

/-- Takes the name of a member, and yields it if it is a plain one. -/
def memberName : Reader (Option String) := do
  match ← peek? with
  | some token =>
      match token.kind with
      | .word spelling =>
          let _ ← next
          return some spelling
      | .privateName | .string | .number =>
          let _ ← next
          return none
      | .sign "[" =>
          skipBrackets
          return none
      | _ => failure
  | none => failure

/-- Takes a dotted name. -/
def dottedName : Nat → Reader Unit
  | 0 => failure
  | fuel + 1 => do
      match (← next).kind with
      | .word _ => pure ()
      | .privateName => pure ()
      | _ => failure
      if ← acceptSign "." then dottedName fuel
      else if ← acceptSign "?." then dottedName fuel
      else return ()

/-- Whether a function type begins here: brackets before an arrow, or parameters of types. -/
def atFunctionType : Reader Bool := do
  if ← atSign "<" then
    return true
  else if ← atSign "(" then
    let arrow ← lookAhead do
      skipBrackets
      requireSign "=>"
    return arrow.isSome
  else
    return false

/-- Whether a constructor type begins here. -/
def atConstructorType : Reader Bool := do
  let opens (token : Token) : Bool := token.isSign "(" || token.isSign "<"
  if ← atWord "new" then
    secondIs opens
  else if ← atWord "abstract" then
    secondIs fun token => token.isWord "new"
  else
    return false

/-- Whether a type can begin with a token. -/
def startsType
    (token : Token) : Bool :=
  match token.kind with
  | .word spelling => spelling != "extends" && spelling != "is"
  | .string | .number | .template | .templateHead => true
  | .sign spelling => ["(", "[", "\x7b", "\x7b|", "<", "-", "|", "&"].contains spelling
  | _ => false

/-- Words that make a type of the type that follows them. -/
def typeOperators : List String := ["keyof", "unique", "readonly"]

/-- Takes the bracket that ends an object type. -/
def objectEnd : Reader Bool :=
  acceptIf fun token => token.isSign "\x7d" || token.isSign "|\x7d"

/-- Whether a member for many keys begins here. -/
def atIndex : Reader Bool := do
  let header ← lookAhead do
    requireSign "["
    let _ ← anyWord
    require fun token => token.isSign ":" || token.isWord "in"
  return header.isSome

/-- Takes a sign that marks something as optional, perhaps with a sign of its own before it. -/
def optionalMark : Reader Unit := do
  let _ ← acceptIf fun token => token.isSign "-" || token.isSign "+"
  let _ ← acceptSign "?"
  return ()

mutual

def type : Nat → Reader Tree
  | 0 => failure
  | fuel + 1 => do
      if ← atFunctionType then
        functionType fuel
      else if ← atConstructorType then
        let _ ← acceptWord "abstract"
        requireWord "new"
        functionType fuel
      else
        let checked ← unionType fuel
        if ← nextIs fun token => token.isWord "extends" && !token.afterLineBreak then
          let _ ← next
          let bound ← boundType fuel
          requireSign "?"
          let whenTrue ← type fuel
          requireSign ":"
          let whenFalse ← type fuel
          return .group [checked, bound, whenTrue, whenFalse]
        else
          return checked

/-- A type that a condition compares with. -/
def boundType : Nat → Reader Tree
  | 0 => failure
  | fuel + 1 => do
      if ← atFunctionType then
        functionType fuel
      else if ← atConstructorType then
        let _ ← acceptWord "abstract"
        requireWord "new"
        functionType fuel
      else
        let inferred ← attempt do
          requireWord "infer"
          let _ ← anyWord
          requireWord "extends"
          let bound ← unionType fuel
          if ← atSign "?" then return bound else failure
        match inferred with
        | some bound => return .group [bound]
        | none => unionType fuel

/-- Parameters, an arrow and a result. -/
def functionType : Nat → Reader Tree
  | 0 => failure
  | fuel + 1 => do
      let parameters ← signatureParameters fuel
      requireSign "=>"
      let result ← type fuel
      return .group [parameters, result]

/-- Parameters of types, if there are any, and parameters. -/
def signatureParameters : Nat → Reader Tree
  | 0 => failure
  | fuel + 1 => do
      let types ← typeParameters fuel
      requireSign "("
      let parameters ← separated "," ")" (parameter fuel) fuel
      return .group (types :: parameters)

/-- A parameter of a type that is a function. -/
def parameter : Nat → Reader Tree
  | 0 => failure
  | fuel + 1 => do
      let _ ← acceptSign "..."
      modifiers fuel
      if ← nextIs Token.isOpening then skipBrackets else
        let _ ← anyWord
      let _ ← acceptSign "?"
      let declared ← optionalType fuel
      return .group declared

/-- A type after a colon, if there is one. -/
def optionalType : Nat → Reader (List Tree)
  | 0 => failure
  | fuel + 1 => do
      if ← acceptSign ":" then
        return [← type fuel]
      else
        return []

/-- Parameters of types in angle brackets, if there are any. -/
def typeParameters : Nat → Reader Tree
  | 0 => failure
  | fuel + 1 => do
      if ← acceptSign "<" then
        return .group (← separated "," ">" (typeParameter fuel) fuel)
      else
        return .leaf

/-- A parameter that stands for a type, with its bound and default. -/
def typeParameter : Nat → Reader Tree
  | 0 => failure
  | fuel + 1 => do
      let isVariance (token : Token) : Bool :=
        token.isWord "const" || token.isWord "in" || token.isWord "out"
      if (← nextIs isVariance) && (← secondIs fun token => token.word?.isSome) then
        let _ ← next
      if (← nextIs isVariance) && (← secondIs fun token => token.word?.isSome) then
        let _ ← next
      let _ ← anyWord
      let bound ← if ← acceptWord "extends" then pure [← type fuel] else pure []
      let default ← if ← acceptSign "=" then pure [← type fuel] else pure []
      return .group (bound ++ default)

/-- Alternatives. -/
def unionType : Nat → Reader Tree
  | 0 => failure
  | fuel + 1 => do
      let leading ← acceptSign "|"
      let parts ← joined "|" (intersectionType fuel) fuel
      match leading, parts with
      | false, [part] => return part
      | _, parts => return .group parts

/-- Types that hold together. -/
def intersectionType : Nat → Reader Tree
  | 0 => failure
  | fuel + 1 => do
      let leading ← acceptSign "&"
      let parts ← joined "&" (operatorType fuel) fuel
      match leading, parts with
      | false, [part] => return part
      | _, parts => return .group parts

/-- A type with the words before it that make another type of it. -/
def operatorType : Nat → Reader Tree
  | 0 => failure
  | fuel + 1 => do
      let isOperator ← nextIs fun token => (token.word?.map typeOperators.contains).getD false
      if isOperator && (← secondIs fun token => startsType token && !token.afterLineBreak) then
        let _ ← next
        return .group [← operatorType fuel]
      else if (← atWord "infer") && (← secondIs fun token => token.word?.isSome) then
        let _ ← next
        let _ ← anyWord
        let bound ← attempt do
          requireWord "extends"
          let bound ← unionType fuel
          if ← atSign "?" then failure
          return bound
        return .group bound.toList
      else if (← atFunctionType) then
        functionType fuel
      else
        let operand ← primaryType fuel
        suffixes operand fuel

/-- A type with the brackets after it that make an array or a part of it. -/
def suffixes
    (operand : Tree) : Nat → Reader Tree
  | 0 => failure
  | fuel + 1 => do
      if ← nextIs fun token => token.isSign "[" && !token.afterLineBreak then
        let _ ← next
        if ← acceptSign "]" then
          suffixes (.group [operand]) fuel
        else
          let index ← type fuel
          requireSign "]"
          suffixes (.group [operand, index]) fuel
      else
        return operand

/-- A type by itself. -/
def primaryType : Nat → Reader Tree
  | 0 => failure
  | fuel + 1 => do
      match ← peek? with
      | none => failure
      | some token =>
          match token.kind with
          | .word spelling =>
              let _ ← next
              namedType spelling fuel
          | .string | .number | .template =>
              let _ ← next
              return .leaf
          | .templateHead =>
              let _ ← next
              return .group (← insertions fuel)
          | .sign "-" =>
              let _ ← next
              require fun token => token.kind == .number
              return .leaf
          | .sign "(" =>
              let _ ← next
              let inner ← type fuel
              requireSign ")"
              return .group [inner]
          | .sign "[" =>
              let _ ← next
              return .group (← separated "," "]" (tupleElement fuel) fuel)
          | .sign "\x7b" | .sign "\x7b|" => objectType fuel
          | _ => failure

/-- The types in the insertions of a template. -/
def insertions : Nat → Reader (List Tree)
  | 0 => failure
  | fuel + 1 => do
      let first ← type fuel
      match (← next).kind with
      | .templateMiddle => return first :: (← insertions fuel)
      | .templateTail => return [first]
      | _ => failure

/-- A type that begins with a word. -/
def namedType
    (spelling : String) : Nat → Reader Tree
  | 0 => failure
  | fuel + 1 => do
      if spelling = "typeof" then
        if ← acceptWord "import" then
          skipBrackets
          if ← acceptSign "." then dottedName fuel
        else
          dottedName fuel
        return .group [← typeArguments fuel]
      else if spelling = "import" then
        skipBrackets
        if ← acceptSign "." then dottedName fuel
        return .group [← typeArguments fuel]
      else if spelling = "asserts" &&
          (← nextIs fun token => token.word?.isSome && !token.isWord "is" && !token.afterLineBreak)
      then
        let _ ← anyWord
        if ← acceptWord "is" then
          return .group [← type fuel]
        else
          return .leaf
      else if (← nextIs fun token => token.isWord "is" && !token.afterLineBreak) &&
          (← secondIs startsType) then
        let _ ← next
        return .group [← type fuel]
      else
        if ← acceptSign "." then dottedName fuel
        return .group [← typeArguments fuel]

/-- Arguments in angle brackets, if there are any. -/
def typeArguments : Nat → Reader Tree
  | 0 => failure
  | fuel + 1 => do
      if ← acceptSign "<" then
        return .group (← separated "," ">" (type fuel) fuel)
      else
        return .leaf

/-- An element of a tuple, perhaps with a label. -/
def tupleElement : Nat → Reader Tree
  | 0 => failure
  | fuel + 1 => do
      let _ ← acceptSign "..."
      let _ ← attempt do
        let _ ← anyWord
        let _ ← acceptSign "?"
        requireSign ":"
      let element ← type fuel
      let _ ← acceptSign "?"
      return .group [element]

/-- An object type with its members. -/
def objectType : Nat → Reader Tree
  | 0 => failure
  | fuel + 1 => return .objectType (← memberBlock fuel)

/-- Members in braces. -/
def memberBlock : Nat → Reader (List Tree)
  | 0 => failure
  | fuel + 1 => do
      require fun token => token.isSign "\x7b" || token.isSign "\x7b|"
      let _ ← acceptIf fun token => token.isSign ";" || token.isSign ","
      members fuel

/-- Members up to the closing brace. -/
def members : Nat → Reader (List Tree)
  | 0 => failure
  | fuel + 1 => do
      if ← objectEnd then
        return []
      let first ← member fuel
      if ← acceptIf fun token => token.isSign ";" || token.isSign "," then
        return first :: (← members fuel)
      else if ← atEnd then
        return first :: (← members fuel)
      else
        failure

/-- A member: a property, a method, a signature or an index. -/
def member : Nat → Reader Tree
  | 0 => failure
  | fuel + 1 => do
      let _ ← acceptIf fun token => token.isSign "-" || token.isSign "+"
      let opens (token : Token) : Bool := token.isSign "(" || token.isSign "<"
      if ← nextIs opens then
        signature fuel
      else if (← atWord "new") && (← secondIs opens) then
        let _ ← next
        signature fuel
      else
        modifiers fuel
        if ← atIndex then
          indexMember fuel
        else
          let _ ← acceptSign "*"
          let name ← memberName
          let _ ← acceptSign "?"
          let isMethod ← nextIs fun token =>
            token.isSign "<" || (token.isSign "(" && !token.afterLineBreak)
          if isMethod then
            signature fuel
          else
            return .property name (← optionalType fuel).head?

/-- Parameters and a result. -/
def signature : Nat → Reader Tree
  | 0 => failure
  | fuel + 1 => do
      let parameters ← signatureParameters fuel
      let result ← optionalType fuel
      return .group (parameters :: result)

/-- A member for all keys of a type, or for each key of a list. -/
def indexMember : Nat → Reader Tree
  | 0 => failure
  | fuel + 1 => do
      requireSign "["
      let _ ← anyWord
      let keys ←
        if ← acceptSign ":" then
          pure [← type fuel]
        else
          requireWord "in"
          let keys ← type fuel
          let renamed ← if ← acceptWord "as" then pure [← type fuel] else pure []
          pure (keys :: renamed)
      requireSign "]"
      optionalMark
      let declared ← optionalType fuel
      return .group (keys ++ declared)

end

end Reader

end Tablewright.Schema
