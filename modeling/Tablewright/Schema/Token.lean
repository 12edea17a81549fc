/-!
# Tokens of a schema

A schema is a text of words, literals and signs. A token knows whether a line break stands before
it, for a line break can end a member or a statement.
-/

namespace Tablewright.Schema

/-- What a token is. -/
inductive TokenKind where
  /-- A name or a word with a meaning of its own, as it is spelled. -/
  | word (spelling : String)
  /-- A name that is private to a class. -/
  | privateName
  | string
  | number
  | regex
  /-- A template without insertions. -/
  | template
  /-- A template up to its first insertion. -/
  | templateHead
  /-- A template between two insertions. -/
  | templateMiddle
  /-- A template after its last insertion. -/
  | templateTail
  | sign (spelling : String)
  /-- A character that begins nothing, or a literal without an end. -/
  | stray
  deriving Repr, DecidableEq

/-- A token. -/
structure Token where
  kind : TokenKind
  afterLineBreak : Bool
  deriving Repr, DecidableEq

namespace Token

def isSign
    (token : Token)
    (spelling : String) : Bool :=
  match token.kind with
  | .sign other => other == spelling
  | _ => false

def isWord
    (token : Token)
    (spelling : String) : Bool :=
  match token.kind with
  | .word other => other == spelling
  | _ => false

/-- The word that the token is, if it is one. -/
def word?
    (token : Token) : Option String :=
  match token.kind with
  | .word spelling => some spelling
  | _ => none

/-- Whether the token opens a bracket, the insertion of a template counting as one. -/
def isOpening
    (token : Token) : Bool :=
  match token.kind with
  | .sign spelling => ["(", "[", "\x7b", "\x7b|"].contains spelling
  | .templateHead => true
  | _ => false

/-- Whether the token closes a bracket. -/
def isClosing
    (token : Token) : Bool :=
  match token.kind with
  | .sign spelling => [")", "]", "\x7d", "|\x7d"].contains spelling
  | .templateTail => true
  | _ => false

end Token

end Tablewright.Schema
