import Tablewright.Schema.Grammar.Basic

/-!
# What readers do

The result of each simple reader on given tokens, as rules to rewrite with.
-/

namespace Tablewright.Schema

namespace Token

@[simp] theorem isSign_sign
    (other spelling : String)
    (lineBreak : Bool) :
    isSign ⟨.sign other, lineBreak⟩ spelling = (other == spelling) := rfl

@[simp] theorem isSign_word
    (word spelling : String)
    (lineBreak : Bool) :
    isSign ⟨.word word, lineBreak⟩ spelling = false := rfl

@[simp] theorem isWord_word
    (other spelling : String)
    (lineBreak : Bool) :
    isWord ⟨.word other, lineBreak⟩ spelling = (other == spelling) := rfl

@[simp] theorem isWord_sign
    (sign spelling : String)
    (lineBreak : Bool) :
    isWord ⟨.sign sign, lineBreak⟩ spelling = false := rfl

@[simp] theorem word?_word
    (spelling : String)
    (lineBreak : Bool) :
    word? ⟨.word spelling, lineBreak⟩ = some spelling := rfl

@[simp] theorem word?_sign
    (spelling : String)
    (lineBreak : Bool) :
    word? ⟨.sign spelling, lineBreak⟩ = none := rfl

end Token

namespace Reader

variable {α β : Type}

@[simp] theorem bind_apply
    (reader : Reader α)
    (next : α → Reader β)
    (tokens : List Token) :
    (reader >>= next) tokens =
      (reader tokens).bind fun found => next found.1 found.2 := rfl

@[simp] theorem pure_apply
    (value : α)
    (tokens : List Token) :
    (pure value : Reader α) tokens = some (value, tokens) := rfl

@[simp] theorem map_apply
    (f : α → β)
    (reader : Reader α)
    (tokens : List Token) :
    (f <$> reader) tokens = (reader tokens).map fun found => (f found.1, found.2) := by
  change (reader tokens).bind _ = _
  cases reader tokens <;> rfl

@[simp] theorem failure_apply
    (tokens : List Token) :
    (failure : Reader α) tokens = none := rfl

@[simp] theorem peek?_apply
    (tokens : List Token) :
    peek? tokens = some (tokens.head?, tokens) := rfl

@[simp] theorem next_cons
    (token : Token)
    (tokens : List Token) :
    next (token :: tokens) = some (token, tokens) := rfl

@[simp] theorem nextIs_apply
    (test : Token → Bool)
    (tokens : List Token) :
    nextIs test tokens = some (tokens.head?.any test, tokens) := by
  cases tokens <;> rfl

@[simp] theorem secondIs_apply
    (test : Token → Bool)
    (tokens : List Token) :
    secondIs test tokens = some (tokens.tail.head?.any test, tokens) := by
  rcases tokens with _ | ⟨first, _ | ⟨second, rest⟩⟩ <;> rfl

@[simp] theorem atSign_apply
    (spelling : String)
    (tokens : List Token) :
    atSign spelling tokens = some (tokens.head?.any (·.isSign spelling), tokens) :=
  nextIs_apply _ tokens

@[simp] theorem atWord_apply
    (spelling : String)
    (tokens : List Token) :
    atWord spelling tokens = some (tokens.head?.any (·.isWord spelling), tokens) :=
  nextIs_apply _ tokens

@[simp] theorem acceptIf_apply
    (test : Token → Bool)
    (tokens : List Token) :
    acceptIf test tokens =
      some (if tokens.head?.any test then (true, tokens.tail) else (false, tokens)) := by
  cases tokens with
  | nil =>
      rfl
  | cons token rest =>
      by_cases passes : test token = true
      · simp [acceptIf, passes]
      · simp [acceptIf, passes]

@[simp] theorem acceptSign_apply
    (spelling : String)
    (tokens : List Token) :
    acceptSign spelling tokens =
      some (if tokens.head?.any (·.isSign spelling) then (true, tokens.tail)
        else (false, tokens)) :=
  acceptIf_apply _ tokens

@[simp] theorem acceptWord_apply
    (spelling : String)
    (tokens : List Token) :
    acceptWord spelling tokens =
      some (if tokens.head?.any (·.isWord spelling) then (true, tokens.tail)
        else (false, tokens)) :=
  acceptIf_apply _ tokens

@[simp] theorem require_apply
    (test : Token → Bool)
    (tokens : List Token) :
    require test tokens =
      if tokens.head?.any test then some ((), tokens.tail) else none := by
  by_cases passes : tokens.head?.any test = true
  · simp [require, passes]
  · simp [require, passes]

@[simp] theorem requireSign_apply
    (spelling : String)
    (tokens : List Token) :
    requireSign spelling tokens =
      if tokens.head?.any (·.isSign spelling) then some ((), tokens.tail) else none :=
  require_apply _ tokens

@[simp] theorem requireWord_apply
    (spelling : String)
    (tokens : List Token) :
    requireWord spelling tokens =
      if tokens.head?.any (·.isWord spelling) then some ((), tokens.tail) else none :=
  require_apply _ tokens

@[simp] theorem anyWord_word
    (spelling : String)
    (lineBreak : Bool)
    (tokens : List Token) :
    anyWord (⟨.word spelling, lineBreak⟩ :: tokens) = some (spelling, tokens) := rfl

@[simp] theorem lookAhead_apply
    (reader : Reader α)
    (tokens : List Token) :
    lookAhead reader tokens = some ((reader tokens).map Prod.fst, tokens) := rfl

end Reader

end Tablewright.Schema
