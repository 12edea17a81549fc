import Tablewright.Schema.Token
import Tablewright.Schema.Tree

/-!
# Readers

A reader takes tokens from the beginning of a list, or fails. Readers for nested forms are given a
number of steps that they may take; it bounds the depth of nesting and is never the limit for a list
of tokens that it was computed from.
-/

namespace Tablewright.Schema

/-- What takes tokens from the beginning of a list, or fails. -/
abbrev Reader := StateT (List Token) Option

namespace Reader

/-- The next token, which stays. -/
def peek? : Reader (Option Token) := do
  return (← get).head?

/-- Takes the next token. -/
def next : Reader Token := do
  match ← get with
  | token :: rest =>
      set rest
      return token
  | [] => failure

/-- Whether the next token passes a test. -/
def nextIs
    (test : Token → Bool) : Reader Bool := do
  match ← peek? with
  | some token => return test token
  | none => return false

/-- Whether the token after the next one passes a test. -/
def secondIs
    (test : Token → Bool) : Reader Bool := do
  match ← get with
  | _ :: token :: _ => return test token
  | _ => return false

/-- Whether the next token is the sign. -/
def atSign
    (spelling : String) : Reader Bool :=
  nextIs fun token => token.isSign spelling

/-- Whether the next token is the word. -/
def atWord
    (spelling : String) : Reader Bool :=
  nextIs fun token => token.isWord spelling

/-- Takes the next token if it passes a test, and tells whether it did. -/
def acceptIf
    (test : Token → Bool) : Reader Bool := do
  if ← nextIs test then
    let _ ← next
    return true
  else
    return false

/-- Takes the sign if it is next. -/
def acceptSign
    (spelling : String) : Reader Bool :=
  acceptIf fun token => token.isSign spelling

/-- Takes the word if it is next. -/
def acceptWord
    (spelling : String) : Reader Bool :=
  acceptIf fun token => token.isWord spelling

/-- Takes the next token, which has to pass a test. -/
def require
    (test : Token → Bool) : Reader Unit := do
  if ← acceptIf test then return () else failure

/-- Takes the sign, which has to be next. -/
def requireSign
    (spelling : String) : Reader Unit :=
  require fun token => token.isSign spelling

/-- Takes the word, which has to be next. -/
def requireWord
    (spelling : String) : Reader Unit :=
  require fun token => token.isWord spelling

/-- Takes any word, which has to be next. -/
def anyWord : Reader String := do
  match (← next).word? with
  | some spelling => return spelling
  | none => failure

/-- Runs a reader; if it fails nothing is taken. -/
def attempt
    {α : Type}
    (reader : Reader α) : Reader (Option α) :=
  fun tokens =>
    match reader tokens with
    | some (value, rest) => some (some value, rest)
    | none => some (none, tokens)

/-- Looks ahead: nothing is taken. -/
def lookAhead
    {α : Type}
    (reader : Reader α) : Reader (Option α) :=
  fun tokens => some ((reader tokens).map Prod.fst, tokens)

/-- The tokens after the bracket that closes the innermost of `depth` open ones. -/
def afterBrackets? : Nat → List Token → Option (List Token)
  | _, [] => none
  | depth, token :: rest =>
      if token.isOpening then afterBrackets? (depth + 1) rest
      else if token.isClosing then
        match depth with
        | 0 => none
        | 1 => some rest
        | inner + 2 => afterBrackets? (inner + 1) rest
      else
        match depth with
        | 0 => none
        | open' + 1 => afterBrackets? (open' + 1) rest

/-- Takes a bracket with everything up to the bracket that closes it. -/
def skipBrackets : Reader Unit := do
  match afterBrackets? 0 (← get) with
  | some rest => set rest
  | none => failure

/-- Takes items up to a closing sign, with separators between them and perhaps after the last. -/
def separated
    (separator closing : String)
    (item : Reader Tree) : Nat → Reader (List Tree)
  | 0 => failure
  | fuel + 1 => do
      if ← acceptSign closing then
        return []
      let first ← item
      if ← acceptSign closing then
        return [first]
      requireSign separator
      let rest ← separated separator closing item fuel
      return first :: rest

/-- Takes items as long as a sign stands between them. -/
def joined
    (sign : String)
    (item : Reader Tree) : Nat → Reader (List Tree)
  | 0 => failure
  | fuel + 1 => do
      let first ← item
      if ← acceptSign sign then
        let rest ← joined sign item fuel
        return first :: rest
      else
        return [first]

/-- Whether a statement or member may end before the next token. -/
def atEnd : Reader Bool := do
  match ← peek? with
  | none => return true
  | some token =>
      return token.afterLineBreak || token.isSign ";" || token.isSign "\x7d" ||
        token.isSign "|\x7d"

/-- Takes the end of a statement: a semicolon, or nothing before a line break or closing brace. -/
def statementEnd : Reader Unit := do
  if ← acceptSign ";" then return ()
  else if ← atEnd then return ()
  else failure

end Reader

/-- The number of steps that suffices to read tokens. -/
def stepsFor
    (tokens : List Token) : Nat :=
  32 * (tokens.length + 4)

end Tablewright.Schema
