import Tablewright.Proofs.Schema.Readers
import Tablewright.Proofs.Schema.Shape
import Tablewright.Schema.Grammar.Type

/-!
# Reading of types

The tokens of a shape are read as its tree, wherever line breaks stand between them and however its
members are separated.
-/

namespace Tablewright.Schema

namespace Reader

/-! ## What follows a type -/

/-- Tokens at whose beginning nothing more belongs to a type: one of some signs, a word on another
line, or none at all. -/
inductive IsAtEnd
    (signs : List String) : List Token → Prop where
  | atNone : IsAtEnd signs []
  | atSign
      {sign : String}
      {lineBreak : Bool}
      {rest : List Token} :
      sign ∈ signs →
      IsAtEnd signs (⟨.sign sign, lineBreak⟩ :: rest)
  | atLine
      {word : String}
      {rest : List Token} :
      IsAtEnd signs (⟨.word word, true⟩ :: rest)

/-- The signs that can follow a type. -/
def typeEnds : List String := [";", ",", "\x7d", "]"]

/-- The signs that can follow one of several alternatives. -/
def alternativeEnds : List String := "|" :: typeEnds

/-- What no sign of an end passes and no word at the beginning of a line, the next token does not
pass. -/
theorem IsAtEnd.any_head?
    {signs : List String}
    {tokens : List Token}
    (ends : IsAtEnd signs tokens)
    {test : Token → Bool}
    (noSign : ∀ sign ∈ signs, ∀ lineBreak, test ⟨.sign sign, lineBreak⟩ = false)
    (noWord : ∀ word, test ⟨.word word, true⟩ = false) :
    tokens.head?.any test = false := by
  cases ends with
  | atNone => rfl
  | atSign isEnd => exact noSign _ isEnd _
  | atLine => exact noWord _

/-- No sign comes next that is none of an end. -/
theorem IsAtEnd.noSign
    {signs : List String}
    {tokens : List Token}
    (ends : IsAtEnd signs tokens)
    {spelling : String}
    (isOther : spelling ∉ signs) :
    tokens.head?.any (fun token => token.isSign spelling) = false := by
  refine ends.any_head? (fun sign isEnd lineBreak => ?_) fun word => rfl
  rw [Token.isSign_sign, beq_eq_false_iff_ne]
  rintro rfl
  exact isOther isEnd

/-- No word comes next on the same line. -/
theorem IsAtEnd.noWord
    {signs : List String}
    {tokens : List Token}
    (ends : IsAtEnd signs tokens)
    (spelling : String) :
    tokens.head?.any (fun token => token.isWord spelling && !token.afterLineBreak) = false :=
  ends.any_head? (fun _ _ _ => rfl) fun word => by simp

/-- Where a type is at its end, an alternative is. -/
theorem IsAtEnd.ofType
    {tokens : List Token}
    (ends : IsAtEnd typeEnds tokens) :
    IsAtEnd alternativeEnds tokens := by
  cases ends with
  | atNone => exact .atNone
  | atSign isEnd => exact .atSign (List.mem_cons_of_mem _ isEnd)
  | atLine => exact .atLine

/-! ## Types with one operand -/

/-- Whether the token begins an operand of no operator. -/
def startsOperand
    (token : Token) : Bool :=
  match token.kind with
  | .word spelling =>
      !(["keyof", "unique", "readonly", "infer", "new", "abstract"].contains spelling)
  | .string => true
  | .sign spelling => spelling == "[" || spelling == "\x7b"
  | _ => false

/-- An operand begins with no sign but a bracket or a brace. -/
theorem isSign_of_startsOperand
    {first : Token}
    (starts : startsOperand first = true)
    {spelling : String}
    (isOther : spelling ≠ "[" ∧ spelling ≠ "\x7b") :
    first.isSign spelling = false := by
  obtain ⟨kind, lineBreak⟩ := first
  cases kind with
  | sign other =>
      simp only [startsOperand, Bool.or_eq_true, beq_iff_eq] at starts
      rcases starts with rfl | rfl
      · simpa [Token.isSign] using isOther.1.symm
      · simpa [Token.isSign] using isOther.2.symm
  | _ =>
      rfl

/-- No function type begins like an operand. -/
theorem atFunctionType_of_startsOperand
    {first : Token}
    (starts : startsOperand first = true)
    (tokens : List Token) :
    atFunctionType (first :: tokens) = some (false, first :: tokens) := by
  have noSigns : first.isSign "<" = false ∧ first.isSign "(" = false :=
    ⟨isSign_of_startsOperand starts (by decide), isSign_of_startsOperand starts (by decide)⟩
  simp [atFunctionType, noSigns]

/-- No constructor type begins like an operand. -/
theorem atConstructorType_of_startsOperand
    {first : Token}
    (starts : startsOperand first = true)
    (tokens : List Token) :
    atConstructorType (first :: tokens) = some (false, first :: tokens) := by
  have noWords : first.isWord "new" = false ∧ first.isWord "abstract" = false := by
    obtain ⟨kind, lineBreak⟩ := first
    cases kind <;> simp_all [startsOperand, Token.isWord]
  simp [atConstructorType, noWords]

/-- Nothing is taken after a type that is at its end. -/
theorem suffixes_of_isAtEnd
    {rest : List Token}
    (ends : IsAtEnd alternativeEnds rest)
    (tree : Tree)
    (fuel : Nat) :
    suffixes tree (fuel + 1) rest = some (tree, rest) := by
  have noSuffix :
      rest.head?.any (fun token => token.isSign "[" && !token.afterLineBreak) = false :=
    ends.any_head? (by decide) (by simp)
  simp [suffixes, noSuffix]

/-- Before an operand there is no operator, and after it no suffix. -/
theorem operatorType_of_primaryType
    {first : Token}
    {tokens rest : List Token}
    {tree : Tree}
    {fuel : Nat}
    (starts : startsOperand first = true)
    (read : primaryType (fuel + 1) (first :: tokens) = some (tree, rest))
    (ends : IsAtEnd alternativeEnds rest) :
    operatorType (fuel + 2) (first :: tokens) = some (tree, rest) := by
  have noOperator :
      (first.word?.map typeOperators.contains).getD false = false ∧
        first.isWord "infer" = false := by
    obtain ⟨kind, lineBreak⟩ := first
    cases kind <;> simp_all [startsOperand, Token.isWord, Token.word?, typeOperators]
  rw [operatorType]
  simp [noOperator, atFunctionType_of_startsOperand starts, read, suffixes_of_isAtEnd ends]

/-- One type alone is an intersection. -/
theorem intersectionType_of_operatorType
    {first : Token}
    {tokens rest : List Token}
    {tree : Tree}
    {fuel : Nat}
    (starts : startsOperand first = true)
    (read : operatorType (fuel + 1) (first :: tokens) = some (tree, rest))
    (ends : IsAtEnd alternativeEnds rest) :
    intersectionType (fuel + 2) (first :: tokens) = some (tree, rest) := by
  have noSign : first.isSign "&" = false := isSign_of_startsOperand starts (by decide)
  have noOther : rest.head?.any (fun token => token.isSign "&") = false :=
    ends.noSign (by decide)
  rw [intersectionType]
  simp [noSign, joined, read, noOther]

/-- One type alone is a union. -/
theorem unionType_of_intersectionType
    {first : Token}
    {tokens rest : List Token}
    {tree : Tree}
    {fuel : Nat}
    (starts : startsOperand first = true)
    (read : intersectionType (fuel + 1) (first :: tokens) = some (tree, rest))
    (ends : IsAtEnd typeEnds rest) :
    unionType (fuel + 2) (first :: tokens) = some (tree, rest) := by
  have noSign : first.isSign "|" = false := isSign_of_startsOperand starts (by decide)
  have noOther : rest.head?.any (fun token => token.isSign "|") = false :=
    ends.noSign (by decide)
  rw [unionType]
  simp [noSign, joined, read, noOther]

/-- A union without a condition after it is a type. -/
theorem type_of_unionType
    {first : Token}
    {tokens rest : List Token}
    {tree : Tree}
    {fuel : Nat}
    (starts : startsOperand first = true)
    (read : unionType fuel (first :: tokens) = some (tree, rest))
    (ends : IsAtEnd typeEnds rest) :
    type (fuel + 1) (first :: tokens) = some (tree, rest) := by
  have noCondition := ends.noWord "extends"
  rw [type]
  simp [atFunctionType_of_startsOperand starts, atConstructorType_of_startsOperand starts, read,
    noCondition]

/-- A type of one operand is read as that operand. -/
theorem type_of_primaryType
    {first : Token}
    {tokens rest : List Token}
    {tree : Tree}
    {fuel : Nat}
    (starts : startsOperand first = true)
    (read : primaryType (fuel + 1) (first :: tokens) = some (tree, rest))
    (ends : IsAtEnd typeEnds rest) :
    type (fuel + 5) (first :: tokens) = some (tree, rest) := by
  have operator := operatorType_of_primaryType starts read ends.ofType
  have intersection := intersectionType_of_operatorType starts operator ends.ofType
  have union := unionType_of_intersectionType starts intersection ends
  exact type_of_unionType starts union ends

/-! ## Alternatives -/

/-- A type that is a word alone is read as such. -/
theorem namedType_of_isAtEnd
    {spelling : String}
    (isOrdinary : spelling ≠ "typeof" ∧ spelling ≠ "import" ∧ spelling ≠ "asserts")
    {rest : List Token}
    (ends : IsAtEnd alternativeEnds rest)
    (fuel : Nat) :
    namedType spelling (fuel + 2) rest = some (.group [.leaf], rest) := by
  obtain ⟨notTypeof, notImport, notAsserts⟩ := isOrdinary
  have noCondition := ends.noWord "is"
  have noDot : rest.head?.any (fun token => token.isSign ".") = false :=
    ends.noSign (by decide)
  have noArguments : rest.head?.any (fun token => token.isSign "<") = false :=
    ends.noSign (by decide)
  rw [namedType]
  simp [notTypeof, notImport, notAsserts, noCondition, noDot, noArguments, typeArguments]

/-- The words for basic types have no other meaning in types. -/
theorem isOrdinary_word
    (type : BasicType) :
    type.word.spelling ≠ "typeof" ∧ type.word.spelling ≠ "import" ∧
      type.word.spelling ≠ "asserts" := by
  cases type <;> decide

/-- An alternative is an operand of no operator. -/
theorem startsOperand_alternative
    (alternative : Alternative)
    (lineBreak : Bool) :
    startsOperand ⟨alternative.symbol.kind, lineBreak⟩ = true := by
  cases alternative with
  | basic type =>
      cases type <;> rfl
  | quoted literal =>
      rfl

/-- An alternative is read as such. -/
theorem primaryType_alternative
    (alternative : Alternative)
    (lineBreak : Bool)
    {rest : List Token}
    (ends : IsAtEnd alternativeEnds rest)
    (fuel : Nat) :
    primaryType (fuel + 3) (⟨alternative.symbol.kind, lineBreak⟩ :: rest) =
      some (alternative.tree, rest) := by
  rw [primaryType]
  cases alternative with
  | basic type =>
      have named := namedType_of_isAtEnd (isOrdinary_word type) ends fuel
      simpa [Alternative.symbol, Symbol.kind, Alternative.tree] using named
  | quoted literal =>
      simp [Alternative.symbol, Symbol.kind, Alternative.tree]

/-- An alternative is read as one of the types that a union is of. -/
theorem intersectionType_alternative
    (alternative : Alternative)
    (lineBreak : Bool)
    {rest : List Token}
    (ends : IsAtEnd alternativeEnds rest)
    (fuel : Nat) :
    intersectionType (fuel + 5) (⟨alternative.symbol.kind, lineBreak⟩ :: rest) =
      some (alternative.tree, rest) :=
  have starts := startsOperand_alternative alternative lineBreak
  have primary := primaryType_alternative alternative lineBreak ends fuel
  intersectionType_of_operatorType starts (operatorType_of_primaryType starts primary ends) ends

/-- Alternatives are read one after another. -/
theorem joined_alternatives
    {first : Alternative}
    {lineBreak : Bool}
    {others : List Alternative}
    {tokens rest : List Token}
    (read : AreRead (piecesOfOthers others) tokens rest)
    (ends : IsAtEnd typeEnds rest)
    (fuel : Nat)
    {steps : Nat}
    (enough : others.length < steps) :
    joined "|" (intersectionType (fuel + 5)) steps
        (⟨first.symbol.kind, lineBreak⟩ :: tokens) =
      some (first.tree :: others.map Alternative.tree, rest) := by
  induction others generalizing first lineBreak tokens steps with
  | nil =>
      obtain ⟨steps, rfl⟩ := Nat.exists_eq_add_one.mpr enough
      obtain rfl := areRead_nil_iff.mp read
      have alone := intersectionType_alternative first lineBreak ends.ofType fuel
      have noOther : tokens.head?.any (fun token => token.isSign "|") = false :=
        ends.noSign (by decide)
      simp [joined, alone, noOther]
  | cons second others inductionHypothesis =>
      obtain ⟨steps, rfl⟩ := Nat.exists_eq_add_one.mpr (Nat.zero_lt_of_lt enough)
      obtain ⟨barBreak, afterBar, rfl, readOthers⟩ := areRead_plain_iff.mp read
      obtain ⟨secondBreak, later, rfl, readLater⟩ := areRead_plain_iff.mp readOthers
      have bar : (Symbol.sign .bar).kind = .sign "|" := rfl
      have isNext :
          IsAtEnd alternativeEnds
            (⟨.sign "|", barBreak⟩ :: ⟨second.symbol.kind, secondBreak⟩ :: later) :=
        .atSign List.mem_cons_self
      have alone := intersectionType_alternative first lineBreak isNext fuel
      have others :=
        @inductionHypothesis second secondBreak later readLater steps
          (Nat.lt_of_succ_lt_succ enough)
      simp [joined, bar, alone, Token.isSign, others]

/-- Each alternative after the first is a token at least. -/
theorem length_le_of_areRead_others
    {others : List Alternative}
    {tokens rest : List Token}
    (read : AreRead (piecesOfOthers others) tokens rest) :
    others.length ≤ tokens.length := by
  induction others generalizing tokens with
  | nil =>
      exact Nat.zero_le _
  | cons second others inductionHypothesis =>
      obtain ⟨barBreak, afterBar, rfl, readOthers⟩ := areRead_plain_iff.mp read
      obtain ⟨secondBreak, later, rfl, readLater⟩ := areRead_plain_iff.mp readOthers
      have fewer := inductionHypothesis readLater
      simp only [List.length_cons]
      omega

/-- Alternatives are a type. -/
theorem type_alternatives
    (first : Alternative)
    (lineBreak : Bool)
    {others : List Alternative}
    {tokens rest : List Token}
    (read : AreRead (piecesOfOthers others) tokens rest)
    (ends : IsAtEnd typeEnds rest)
    {fuel : Nat}
    (enough : others.length ≤ fuel) :
    type (fuel + 7) (⟨first.symbol.kind, lineBreak⟩ :: tokens) =
      some ((Shape.alternatives first others).tree, rest) := by
  have starts := startsOperand_alternative first lineBreak
  have noSign : Token.isSign ⟨first.symbol.kind, lineBreak⟩ "|" = false :=
    isSign_of_startsOperand starts (by decide)
  have parts :
      joined "|" (intersectionType (fuel + 5)) (fuel + 5)
          (⟨first.symbol.kind, lineBreak⟩ :: tokens) =
        some (first.tree :: others.map Alternative.tree, rest) :=
    joined_alternatives read ends fuel (by omega)
  refine type_of_unionType starts ?_ ends
  rw [unionType]
  cases others with
  | nil =>
      simp [noSign, parts, Shape.tree]
  | cons second others =>
      simp [noSign, parts, Shape.tree]

/-! ## Object types -/

/-- What stands between a member and what follows it: a sign, or a line break, or nothing before a
brace. -/
inductive IsSeparated : List Token → List Token → Prop where
  | bySign
      (separator : Separator)
      (lineBreak : Bool)
      (later : List Token) :
      IsSeparated (⟨separator.symbol.kind, lineBreak⟩ :: later) later
  | byLine
      (word : String)
      (later : List Token) :
      IsSeparated (⟨.word word, true⟩ :: later) (⟨.word word, true⟩ :: later)
  | byBrace
      (lineBreak : Bool)
      (later : List Token) :
      IsSeparated (⟨.sign "\x7d", lineBreak⟩ :: later) (⟨.sign "\x7d", lineBreak⟩ :: later)

/-- The type of a member is at its end where the member is separated from what follows. -/
theorem IsSeparated.isAtEnd
    {tokens later : List Token}
    (separated : IsSeparated tokens later) :
    IsAtEnd typeEnds tokens := by
  cases separated with
  | bySign separator lineBreak later =>
      cases separator with
      | semicolon => exact .atSign (by decide)
      | comma => exact .atSign (by decide)
  | byLine word later => exact .atLine
  | byBrace lineBreak later => exact .atSign (by decide)

/-- No tokens appear between members. -/
theorem IsSeparated.length_le
    {tokens later : List Token}
    (separated : IsSeparated tokens later) :
    later.length ≤ tokens.length := by
  cases separated with
  | bySign separator lineBreak later => exact Nat.le_succ _
  | byLine word later => exact Nat.le_refl _
  | byBrace lineBreak later => exact Nat.le_refl _

/-- The last member is separated from the brace after it. -/
theorem isSeparated_closing
    {tokens rest : List Token}
    (read : AreRead closingPieces tokens rest) :
    ∃ lineBreak, IsSeparated tokens (⟨.sign "\x7d", lineBreak⟩ :: rest) := by
  cases read with
  | cons isRead others =>
      obtain ⟨lineBreak, later, rfl, none⟩ := areRead_plain_iff.mp others
      obtain rfl := areRead_nil_iff.mp none
      cases isRead with
      | separatedLast separator signBreak =>
          exact ⟨lineBreak, .bySign separator signBreak _⟩
      | last =>
          exact ⟨lineBreak, .byBrace lineBreak _⟩

/-- A member is separated from the next one. -/
theorem isSeparated_nextMember
    {name : Identifier}
    {pieces : List Piece}
    {tokens rest : List Token}
    (read : AreRead (.nextMember (.word name) :: pieces) tokens rest) :
    ∃ lineBreak later,
      IsSeparated tokens (⟨.word name.spelling, lineBreak⟩ :: later) ∧
        AreRead pieces later rest := by
  cases read with
  | cons isRead others =>
      cases isRead with
      | separated separator signBreak lineBreak =>
          exact ⟨lineBreak, _, .bySign separator signBreak _, others⟩
      | onNewLine =>
          exact ⟨true, _, .byLine name.spelling _, others⟩

/-- One more member is read before others. -/
theorem members_of_member
    {tokens between later rest : List Token}
    {tree : Tree}
    {trees : List Tree}
    {fuel : Nat}
    (noBrace :
      tokens.head?.any (fun token => token.isSign "\x7d" || token.isSign "|\x7d") = false)
    (first : member fuel tokens = some (tree, between))
    (separated : IsSeparated between later)
    (others : members fuel later = some (trees, rest)) :
    members (fuel + 1) tokens = some (tree :: trees, rest) := by
  rw [members]
  cases separated with
  | bySign separator lineBreak later =>
      cases separator <;>
        simp [objectEnd, noBrace, first, Separator.symbol, Symbol.kind, Sign.spelling, others]
  | byLine word later =>
      simp [objectEnd, noBrace, first, atEnd, others]
  | byBrace lineBreak later =>
      simp [objectEnd, noBrace, first, atEnd, others]

/-- No member is read before the last brace. -/
theorem members_closing
    (lineBreak : Bool)
    (rest : List Token)
    (fuel : Nat) :
    members (fuel + 1) (⟨.sign "\x7d", lineBreak⟩ :: rest) = some ([], rest) := by
  rw [members]
  simp [objectEnd]

/-- Members in braces are an object type. -/
theorem type_of_members
    {lineBreak : Bool}
    {first : Token}
    {tokens rest : List Token}
    {trees : List Tree}
    {fuel : Nat}
    (noSeparator : first.isSign ";" = false ∧ first.isSign "," = false)
    (read : members fuel (first :: tokens) = some (trees, rest))
    (ends : IsAtEnd typeEnds rest) :
    type (fuel + 7) (⟨.sign "\x7b", lineBreak⟩ :: first :: tokens) =
      some (.objectType trees, rest) := by
  refine type_of_primaryType rfl ?_ ends
  rw [primaryType]
  simp [objectType, memberBlock, noSeparator, read]

/-- A property with its type. -/
theorem member_property
    {key : Key}
    {lineBreak : Bool}
    {tokens between rest : List Token}
    {tree : Tree}
    {fuel : Nat}
    (mark : AreRead key.mark tokens between)
    (read : type fuel between = some (tree, rest)) :
    member (fuel + 2) (⟨.word key.name.spelling, lineBreak⟩ :: tokens) =
      some (.property (some key.name.spelling) (some tree), rest) := by
  have optional :
      (∃ markBreak colonBreak,
        tokens = ⟨.sign "?", markBreak⟩ :: ⟨.sign ":", colonBreak⟩ :: between) ∨
      ∃ colonBreak, tokens = ⟨.sign ":", colonBreak⟩ :: between := by
    unfold Key.mark at mark
    split at mark
    · obtain ⟨markBreak, later, rfl, readColon⟩ := areRead_plain_iff.mp mark
      obtain ⟨colonBreak, last, rfl, none⟩ := areRead_plain_iff.mp readColon
      obtain rfl := areRead_nil_iff.mp none
      exact Or.inl ⟨markBreak, colonBreak, rfl⟩
    · obtain ⟨colonBreak, last, rfl, none⟩ := areRead_plain_iff.mp mark
      obtain rfl := areRead_nil_iff.mp none
      exact Or.inr ⟨colonBreak, rfl⟩
  rw [member]
  rcases optional with ⟨markBreak, colonBreak, rfl⟩ | ⟨colonBreak, rfl⟩
  · simp [modifiers, startsName, atIndex, memberName, optionalType, read]
  · simp [modifiers, startsName, atIndex, memberName, optionalType, read]

/-- A member for none of all keys. -/
theorem member_noKeys
    {tokens rest : List Token}
    (read : AreRead piecesOfNoKeys tokens rest)
    (ends : IsAtEnd typeEnds rest)
    (fuel : Nat) :
    member (fuel + 10) tokens =
      some (.group [(Alternative.basic .never).tree, (Alternative.basic .never).tree], rest) := by
  obtain ⟨openBreak, afterOpen, rfl, readName⟩ := areRead_plain_iff.mp read
  obtain ⟨nameBreak, afterName, rfl, readIn⟩ := areRead_plain_iff.mp readName
  obtain ⟨inBreak, afterIn, rfl, readKeys⟩ := areRead_plain_iff.mp readIn
  obtain ⟨keysBreak, afterKeys, rfl, readClose⟩ := areRead_plain_iff.mp readKeys
  obtain ⟨closeBreak, afterClose, rfl, readColon⟩ := areRead_plain_iff.mp readClose
  obtain ⟨colonBreak, afterColon, rfl, readType⟩ := areRead_plain_iff.mp readColon
  obtain ⟨typeBreak, afterType, rfl, none⟩ := areRead_plain_iff.mp readType
  obtain rfl := areRead_nil_iff.mp none
  have readNever (lineBreak : Bool) {later : List Token} (isEnd : IsAtEnd typeEnds later)
      (steps : Nat) :
      type (steps + 7) (⟨.word "never", lineBreak⟩ :: later) =
        some ((Alternative.basic .never).tree, later) := by
    have alone : AreRead (piecesOfOthers []) later later := .nil
    exact type_alternatives (.basic .never) lineBreak alone isEnd (Nat.zero_le _)
  have readKeys :
      type (fuel + 8)
          (⟨.word "never", keysBreak⟩ :: ⟨.sign "]", closeBreak⟩ :: ⟨.sign ":", colonBreak⟩ ::
            ⟨.word "never", typeBreak⟩ :: afterType) =
        some ((Alternative.basic .never).tree,
          ⟨.sign "]", closeBreak⟩ :: ⟨.sign ":", colonBreak⟩ ::
            ⟨.word "never", typeBreak⟩ :: afterType) :=
    readNever keysBreak (.atSign (by decide)) (fuel + 1)
  have readType := readNever typeBreak ends fuel
  simp only [Symbol.kind, Sign.spelling, BasicType.word]
  rw [member]
  simp [modifiers, atIndex, indexMember, optionalMark, optionalType, readKeys, readType]

end Reader

open Reader

/-- The tokens of a type are read as its tree. Sixteen steps for each token are enough: from a type
down to that of a member there are ten steps and at least three tokens, and from a member to the next
one a single step. -/
def Shape.IsReadable
    (shape : Shape) : Prop :=
  ∀ {tokens rest : List Token} {fuel : Nat},
    AreRead shape.pieces tokens rest →
    IsAtEnd typeEnds rest →
    16 * tokens.length ≤ fuel →
    type fuel tokens = some (shape.tree, rest)

/-- A member is read if its type is, as soon as it is known that nothing more belongs to that. -/
theorem member_of_isReadable
    {key : Key}
    {shape : Shape}
    (isReadable : shape.IsReadable)
    {pieces : List Piece}
    {tokens rest : List Token}
    (read : AreRead (key.mark ++ (shape.pieces ++ pieces)) tokens rest)
    (fuel : Nat)
    (enough : 16 * tokens.length ≤ fuel)
    (lineBreak : Bool) :
    ∃ between,
      AreRead pieces between rest ∧
        between.length ≤ tokens.length ∧
        (IsAtEnd typeEnds between →
          member (fuel + 2) (⟨.word key.name.spelling, lineBreak⟩ :: tokens) =
            some (.property (some key.name.spelling) (some shape.tree), between)) := by
  obtain ⟨afterMark, readMark, readRest⟩ := areRead_append_iff.mp read
  obtain ⟨between, readShape, readPieces⟩ := areRead_append_iff.mp readRest
  have markLength := readMark.length_le
  have shapeLength := readShape.length_le
  refine ⟨between, readPieces, by omega, fun ends => ?_⟩
  exact member_property readMark (isReadable readShape ends (by omega))

/-- Members are read one after another, whatever separates them. -/
theorem members_of_isReadable
    {key : Key}
    {shape : Shape}
    {others : List (Key × Shape)}
    (each : ∀ member ∈ (key, shape) :: others, member.2.IsReadable)
    (lineBreak : Bool)
    {tokens rest : List Token}
    (read :
      AreRead (key.mark ++ (shape.pieces ++ (piecesOfMembers others ++ closingPieces))) tokens
        rest)
    {fuel : Nat}
    (enough : 16 * tokens.length + 16 ≤ fuel) :
    members fuel (⟨.word key.name.spelling, lineBreak⟩ :: tokens) =
      some (treesOfMembers ((key, shape) :: others), rest) := by
  obtain ⟨fuel, rfl⟩ : ∃ steps, fuel = steps + 3 := Nat.exists_eq_add_of_le' (by omega)
  -- Whatever separates a member from what follows also shows that its type is at its end.
  induction others generalizing key shape lineBreak tokens fuel with
  | nil =>
      obtain ⟨between, readClosing, -, readMember⟩ :=
        member_of_isReadable (each (key, shape) List.mem_cons_self) read fuel (by omega)
          lineBreak
      obtain ⟨braceBreak, separated⟩ := isSeparated_closing readClosing
      exact
        members_of_member rfl (readMember separated.isAtEnd) separated
          (members_closing braceBreak rest _)
  | cons second others inductionHypothesis =>
      obtain ⟨between, readOthers, fewer, readMember⟩ :=
        member_of_isReadable (each (key, shape) List.mem_cons_self) read fuel (by omega)
          lineBreak
      obtain ⟨secondKey, secondShape⟩ := second
      simp only [piecesOfMembers, List.cons_append, List.append_assoc] at readOthers
      obtain ⟨secondBreak, later, separated, readSecond⟩ := isSeparated_nextMember readOthers
      have stillFewer := separated.length_le
      rw [List.length_cons] at stillFewer
      obtain ⟨steps, rfl⟩ : ∃ steps, fuel = steps + 1 := Nat.exists_eq_add_of_le' (by omega)
      have readLater :=
        inductionHypothesis (fun member isOther => each member (List.mem_cons_of_mem _ isOther))
          secondBreak readSecond steps (by omega)
      exact members_of_member rfl (readMember separated.isAtEnd) separated readLater

/-- A type is read as its tree, wherever line breaks stand in it. -/
theorem Shape.isReadable
    (shape : Shape) :
    shape.IsReadable := by
  induction shape using Shape.members_induction with
  | alternatives first others =>
      intro tokens rest fuel read ends enough
      obtain ⟨lineBreak, later, rfl, readOthers⟩ := areRead_plain_iff.mp read
      have fewer := length_le_of_areRead_others readOthers
      rw [List.length_cons] at enough
      obtain ⟨steps, rfl⟩ : ∃ steps, fuel = steps + 7 := Nat.exists_eq_add_of_le' (by omega)
      exact type_alternatives first lineBreak readOthers ends (by omega)
  | emptyTuple =>
      intro tokens rest fuel read ends enough
      obtain ⟨openBreak, afterOpen, rfl, readClose⟩ := areRead_plain_iff.mp read
      obtain ⟨closeBreak, afterClose, rfl, none⟩ := areRead_plain_iff.mp readClose
      obtain rfl := areRead_nil_iff.mp none
      simp only [List.length_cons] at enough
      obtain ⟨steps, rfl⟩ : ∃ steps, fuel = steps + 6 := Nat.exists_eq_add_of_le' (by omega)
      refine type_of_primaryType rfl ?_ ends
      rw [primaryType]
      simp [Symbol.kind, Sign.spelling, separated, Shape.tree]
  | noKeys =>
      intro tokens rest fuel read ends enough
      obtain ⟨openBreak, afterOpen, rfl, readRest⟩ := areRead_plain_iff.mp read
      obtain ⟨between, readMember, readClosing⟩ := areRead_append_iff.mp readRest
      obtain ⟨braceBreak, separated⟩ := isSeparated_closing readClosing
      obtain ⟨bracketBreak, afterBracket, rfl, -⟩ := areRead_plain_iff.mp readMember
      simp only [List.length_cons] at enough
      obtain ⟨steps, rfl⟩ : ∃ steps, fuel = steps + 18 := Nat.exists_eq_add_of_le' (by omega)
      have readAll :=
        members_of_member rfl (member_noKeys readMember separated.isAtEnd steps) separated
          (members_closing braceBreak rest _)
      exact type_of_members ⟨rfl, rfl⟩ readAll ends
  | object members inductionHypothesis =>
      intro tokens rest fuel read ends enough
      cases members with
      | nil =>
          obtain ⟨openBreak, afterOpen, rfl, readClose⟩ := areRead_plain_iff.mp read
          obtain ⟨closeBreak, afterClose, rfl, none⟩ := areRead_plain_iff.mp readClose
          obtain rfl := areRead_nil_iff.mp none
          simp only [List.length_cons] at enough
          obtain ⟨steps, rfl⟩ : ∃ steps, fuel = steps + 8 := Nat.exists_eq_add_of_le' (by omega)
          exact type_of_members ⟨rfl, rfl⟩ (members_closing closeBreak _ steps) ends
      | cons member members =>
          obtain ⟨key, shape⟩ := member
          obtain ⟨openBreak, afterOpen, rfl, readName⟩ := areRead_plain_iff.mp read
          obtain ⟨nameBreak, afterName, rfl, readMembers⟩ := areRead_plain_iff.mp readName
          simp only [List.length_cons] at enough
          obtain ⟨steps, rfl⟩ : ∃ steps, fuel = steps + 7 := Nat.exists_eq_add_of_le' (by omega)
          have readAll :
              Reader.members steps (⟨.word key.name.spelling, nameBreak⟩ :: afterName) =
                some (treesOfMembers ((key, shape) :: members), rest) :=
            members_of_isReadable inductionHypothesis nameBreak readMembers (by omega)
          exact type_of_members ⟨rfl, rfl⟩ readAll ends

end Tablewright.Schema
