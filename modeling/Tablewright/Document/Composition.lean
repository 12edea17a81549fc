import Tablewright.Document.Node
import Tablewright.Document.Tokens

/-!
# Nodes from tokens

A document is composed of its tokens from the first to the last. Where a token does not fit, the
fault names the collection it stands in. If the tokens end with a fault, it counts only when they
have all been used.
-/

namespace Tablewright.Document

/-- What is left to compose of, and what names and handles stand for. -/
structure Composing where
  tokens : List Token
  /-- Why there are no more tokens. -/
  fault? : Option Fault
  anchors : List (String × Node)
  handles : List (String × String)

/-- A step that uses tokens. -/
abbrev Composer := StateT Composing (Except Fault)

namespace Composer

def next : Composer Token := do
  let state ← get
  match state.tokens with
  | token :: _ => return token
  | [] =>
      match state.fault? with
      | some fault => throw fault
      | none => return ⟨.streamEnd, Mark.start, Mark.start⟩

/-- Uses the next token. -/
def take : Composer Token := do
  let token ← next
  modify fun state => { state with tokens := state.tokens.drop 1 }
  return token

/-- Fails with a problem of the next token, whose name is part of it. -/
def failAt
    {α : Type}
    (activity : Option (Activity × Option Mark))
    (problem : String → Problem) : Composer α := do
  let token ← next
  throw (.located activity (problem token.kind.name) token.start)

/-! ## Directives -/

/-- What handles stand for without a directive. -/
def standardHandles : List (String × String) :=
  [("!", "!"), ("!!", Tag.standardAddress)]

/-- Uses directives; `versionSeen` says whether a version has been declared. -/
def directives
    (versionSeen : Bool)
    (handles : List (String × String)) : Nat → Composer (List (String × String))
  | 0 => return handles
  | fuel + 1 => do
      let token ← next
      match token.kind with
      | .directive directive =>
          discard take
          match directive with
          | .version major _ =>
              if versionSeen then throw (.located none .secondVersion token.start)
              if major ≠ 1 then throw (.located none .incompatibleVersion token.start)
              directives true handles fuel
          | .handle name address =>
              if (handles.lookup name).isSome then
                throw (.located none (.repeatedHandle name) token.start)
              directives versionSeen (handles ++ [(name, address)]) fuel
          | .other _ => directives versionSeen handles fuel
      | _ => return handles

/-- Uses the beginning of a document that is not left out. -/
def documentStart : Composer Unit := do
  let handles ← directives false [] ((← get).tokens.length + 1)
  if (← next).kind ≠ .documentStart then failAt none .noDocumentStart
  discard take
  modify fun state => { state with handles := handles ++ standardHandles }

/-! ## Properties -/

/-- The name and the tag of a node, and the place where they start, if there are any. -/
structure Properties where
  anchor : Option String
  address : Option String
  start : Option Mark

/-- The address that a tag stands for. -/
def addressOf
    (text : TagText)
    (start mark : Mark) : Composer String := do
  match text.handle with
  | none => return text.suffix
  | some handle =>
      match (← get).handles.lookup handle with
      | some address => return address ++ text.suffix
      | none => throw (.located (some (.node, some start)) (.undefinedHandle handle) mark)

/-- Uses a name and a tag in either order. -/
def properties : Composer Properties := do
  let first ← next
  match first.kind with
  | .anchor name =>
      discard take
      let second ← next
      match second.kind with
      | .tag text =>
          discard take
          return ⟨some name, ← addressOf text first.start second.start, first.start⟩
      | _ => return ⟨some name, none, first.start⟩
  | .tag text =>
      discard take
      match (← next).kind with
      | .anchor name =>
          discard take
          return ⟨some name, ← addressOf text first.start first.start, first.start⟩
      | _ => return ⟨none, ← addressOf text first.start first.start, first.start⟩
  | _ => return ⟨none, none, none⟩

def collectionTag
    (address : Option String)
    (standard : Tag) : Tag :=
  match address with
  | none => standard
  | some address => if address = "!" then standard else Tag.ofAddress address

/-- The tag of a scalar. A plain one without a tag has the one that its form suggests, and so has
one that is tagged with an exclamation mark alone. -/
def scalarTag
    (address : Option String)
    (text : String)
    (isPlain : Bool) : Tag :=
  match address with
  | none => if isPlain then Tag.ofPlain text else .text
  | some address => if address = "!" then Tag.ofPlain text else Tag.ofAddress address

/-- Fails if a name has been given already. -/
def checkAnchor
    (anchor : Option String)
    (mark : Mark) : Composer Unit := do
  match anchor with
  | none => return ()
  | some name =>
      match (← get).anchors.lookup name with
      | none => return ()
      | some node =>
          throw (.located (some (.firstAnchor name, some node.mark)) .secondAnchor mark)

/-- Gives a name to a node. -/
def setAnchor
    (anchor : Option String)
    (node : Node) : Composer Unit :=
  match anchor with
  | none => return ()
  | some name => modify fun state => { state with anchors := (name, node) :: state.anchors }

/-- Composes a collection, inside of which its name stands for something incomplete. -/
def collection
    (properties : Properties)
    (tag : Tag)
    (shape : Shape)
    (mark : Mark)
    (content : Composer Node) : Composer Node := do
  checkAnchor properties.anchor mark
  setAnchor properties.anchor (.enclosing tag shape mark)
  let node ← content
  setAnchor properties.anchor node
  return node

/-! ## Nodes -/

mutual

/-- Composes a node. Block collections are possible in blocks only, and a sequence may stand at the
column of the mapping around it where `indentless` says so. -/
def node
    (inBlock indentless : Bool) : Nat → Composer Node
  | 0 => return Node.empty Mark.start
  | fuel + 1 => do
      let first ← next
      match first.kind with
      | .alias name =>
          discard take
          match (← get).anchors.lookup name with
          | some node => return node
          | none => throw (.located none (.undefinedAlias name) first.start)
      | _ =>
          let properties ← properties
          let token ← next
          let mark := properties.start.getD token.start
          let sequence (content : Composer (List Node)) : Composer Node :=
            let tag := collectionTag properties.address .sequence
            collection properties tag .sequence mark do return .sequence tag (← content) mark
          let mapping (content : Composer (List (Node × Node))) : Composer Node :=
            let tag := collectionTag properties.address .mapping
            collection properties tag .mapping mark do return .mapping tag (← content) mark
          let scalar (text : String) (isPlain : Bool) : Composer Node := do
            checkAnchor properties.anchor mark
            let node := Node.scalar (scalarTag properties.address text isPlain) text mark
            setAnchor properties.anchor node
            return node
          match token.kind with
          | .scalar text isPlain =>
              discard take
              scalar text isPlain
          | .flowSequenceStart =>
              sequence do
                discard take
                flowItems token.start true fuel
          | .flowMappingStart =>
              mapping do
                discard take
                flowEntries token.start true fuel
          | kind =>
              if kind = .blockEntry && indentless then
                sequence (indentlessItems fuel)
              else if kind = .blockSequenceStart && inBlock then
                sequence do
                  discard take
                  blockItems token.start fuel
              else if kind = .blockMappingStart && inBlock then
                mapping do
                  discard take
                  blockEntries token.start fuel
              else if properties.start.isSome then
                scalar "" (properties.address.isNone)
              else
                let activity := if inBlock then Activity.blockNode else Activity.flowNode
                failAt (some (activity, some mark)) .noNode

/-- Composes the items of a block sequence. -/
def blockItems
    (start : Mark) : Nat → Composer (List Node)
  | 0 => return []
  | fuel + 1 => do
      let token ← next
      match token.kind with
      | .blockEntry =>
          discard take
          let kind := (← next).kind
          let item ←
            if kind = .blockEntry || kind = .blockEnd then pure (Node.empty token.stop)
            else node true false fuel
          return item :: (← blockItems start fuel)
      | .blockEnd =>
          discard take
          return []
      | _ => failAt (some (.blockSequence, some start)) .noBlockEnd

/-- Composes the items of a sequence at the column of the mapping around it. -/
def indentlessItems : Nat → Composer (List Node)
  | 0 => return []
  | fuel + 1 => do
      let token ← next
      match token.kind with
      | .blockEntry =>
          discard take
          let kind := (← next).kind
          let item ←
            if kind = .blockEntry || kind = .key || kind = .value || kind = .blockEnd then
              pure (Node.empty token.stop)
            else node true false fuel
          return item :: (← indentlessItems fuel)
      | _ => return []

/-- Composes the value of a key in a block mapping. -/
def blockValue : Nat → Composer Node
  | 0 => return Node.empty Mark.start
  | fuel + 1 => do
      let token ← next
      match token.kind with
      | .value =>
          discard take
          let kind := (← next).kind
          if kind = .key || kind = .value || kind = .blockEnd then return Node.empty token.stop
          else node true true fuel
      | _ => return Node.empty token.start

/-- Composes the entries of a block mapping. -/
def blockEntries
    (start : Mark) : Nat → Composer (List (Node × Node))
  | 0 => return []
  | fuel + 1 => do
      let token ← next
      match token.kind with
      | .key =>
          discard take
          let kind := (← next).kind
          let key ←
            if kind = .key || kind = .value || kind = .blockEnd then pure (Node.empty token.stop)
            else node true true fuel
          let value ← blockValue fuel
          return (key, value) :: (← blockEntries start fuel)
      | .blockEnd =>
          discard take
          return []
      | _ => failAt (some (.blockMapping, some start)) .noBlockEnd

/-- Composes the value of a key in a flow collection, which ends with a token of a given kind. -/
def flowValue
    (ending : TokenKind) : Nat → Composer Node
  | 0 => return Node.empty Mark.start
  | fuel + 1 => do
      let token ← next
      match token.kind with
      | .value =>
          discard take
          let kind := (← next).kind
          if kind = .flowEntry || kind = ending then return Node.empty token.stop
          else node false false fuel
      | _ => return Node.empty token.start

/-- Composes the key that follows its sign in a flow collection. -/
def flowKey
    (ending : TokenKind) : Nat → Composer Node
  | 0 => return Node.empty Mark.start
  | fuel + 1 => do
      let token ← take
      let kind := (← next).kind
      if kind = .value || kind = .flowEntry || kind = ending then return Node.empty token.stop
      else node false false fuel

/-- Composes the items of a flow sequence. A key with its value is an item of its own. -/
def flowItems
    (start : Mark)
    (isFirst : Bool) : Nat → Composer (List Node)
  | 0 => return []
  | fuel + 1 => do
      if (← next).kind = .flowSequenceEnd then
        discard take
        return []
      if !isFirst then
        if (← next).kind = .flowEntry then discard take
        else failAt (some (.flowSequence, some start)) .noSequenceEnd
      let token ← next
      match token.kind with
      | .key =>
          let key ← flowKey .flowSequenceEnd fuel
          let value ← flowValue .flowSequenceEnd fuel
          return .mapping .mapping [(key, value)] token.start :: (← flowItems start false fuel)
      | .flowSequenceEnd =>
          discard take
          return []
      | _ =>
          let item ← node false false fuel
          return item :: (← flowItems start false fuel)

/-- Composes the entries of a flow mapping. A node that is no key has an empty value. -/
def flowEntries
    (start : Mark)
    (isFirst : Bool) : Nat → Composer (List (Node × Node))
  | 0 => return []
  | fuel + 1 => do
      if (← next).kind = .flowMappingEnd then
        discard take
        return []
      if !isFirst then
        if (← next).kind = .flowEntry then discard take
        else failAt (some (.flowMapping, some start)) .noMappingEnd
      match (← next).kind with
      | .key =>
          let key ← flowKey .flowMappingEnd fuel
          let value ← flowValue .flowMappingEnd fuel
          return (key, value) :: (← flowEntries start false fuel)
      | .flowMappingEnd =>
          discard take
          return []
      | _ =>
          let key ← node false false fuel
          let value := Node.empty (← next).start
          return (key, value) :: (← flowEntries start false fuel)

end

/-! ## Documents -/

/-- Whether the token cannot begin the content of a document. -/
def isOutside : TokenKind → Bool
  | .directive _ => true
  | .documentStart => true
  | .documentEnd => true
  | .streamEnd => true
  | _ => false

/-- Composes the content of a document whose beginning is not left out. -/
def content
    (fuel : Nat) : Composer Node := do
  let token ← next
  if isOutside token.kind then return Node.empty token.start
  else node true false fuel

/-- Uses the ends of documents. -/
def documentEnds : Nat → Composer Unit
  | 0 => return ()
  | fuel + 1 => do
      if (← next).kind = .documentEnd then
        discard take
        documentEnds fuel

/-- Composes the only document of a text, if there is one. -/
def document : Composer (Option Node) := do
  let count := (← get).tokens.length
  let fuel := 4 * count + 4
  let first ← next
  match first.kind with
  | .streamEnd => return none
  | _ =>
      let root ←
        match first.kind with
        | .directive _ => documentStart *> content fuel
        | .documentStart => documentStart *> content fuel
        | _ => node true false fuel
      documentEnds (count + 1)
      let token ← next
      match token.kind with
      | .streamEnd => return some root
      | _ =>
          documentStart
          throw (.located (some (.onlyDocument, some root.mark)) .secondDocument token.start)

end Composer

/-- The tree of the only document of a text, if there is one. -/
def nodeOf?
    (text : List Char) : Except Fault (Option Node) := do
  let (tokens, fault?) := tokensOf text
  let (root?, _) ← Composer.document.run ⟨tokens, fault?, [], Composer.standardHandles⟩
  return root?

end Tablewright.Document
