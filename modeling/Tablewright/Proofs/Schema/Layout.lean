import Tablewright.Proofs.Schema.Symbols

/-!
# Layouts

A text is printed from pieces, most of which are symbols. A layout says what stands between them:
white space, comments, and what separates members, which is a semicolon, a comma or the end of a
line. The tokens of the text are those that the pieces ask for, whatever the layout.
-/

namespace Tablewright.Schema

/-! ## Symbols one after another -/

/-- A symbol and what is written before it. -/
structure Placed where
  before : List Trivia
  symbol : Symbol

/-- What the symbol is read as in its place. -/
def Placed.token
    (placed : Placed) : Token :=
  ⟨placed.symbol.kind, placed.before.any Trivia.breaksLine⟩

/-- What is written before a symbol: a space if nothing else is between the symbol and one before it
that could be read together with it. -/
def keptApart
    (last? : Option Symbol)
    (placed : Placed) : List Trivia :=
  if placed.before.isEmpty &&
      last?.any fun last => placed.symbol.chars.head?.any last.runsInto then
    [.space]
  else placed.before

/-- The characters of symbols after another one, and of what stands after them all. -/
def writtenAfter
    (last? : Option Symbol)
    (final : List Trivia) : List Placed → List Char
  | [] => final.flatMap Trivia.chars
  | placed :: rest =>
      (keptApart last? placed).flatMap Trivia.chars ++
        (placed.symbol.chars ++ writtenAfter (some placed.symbol) final rest)

/-- A space that keeps symbols apart ends no line. -/
theorem any_breaksLine_keptApart
    (last? : Option Symbol)
    (placed : Placed) :
    (keptApart last? placed).any Trivia.breaksLine = placed.before.any Trivia.breaksLine := by
  unfold keptApart
  split
  · next isTight =>
      have noTrivia : placed.before = [] := by
        simpa using (Bool.and_eq_true_iff.mp isTight).1
      rw [noTrivia]
      rfl
  · rfl

/-- White space and comments begin as such. -/
theorem beginsTrivia_of_head?_flatMap
    {trivia : List Trivia}
    {rest : List Char}
    {c : Char}
    (isHead : c ∈ (trivia.flatMap Trivia.chars ++ rest).head?) :
    beginsTrivia c = true ∨ (trivia = [] ∧ c ∈ rest.head?) := by
  cases trivia with
  | nil =>
      exact Or.inr ⟨rfl, isHead⟩
  | cons first others =>
      obtain ⟨begin, more, shape, begins⟩ := first.exists_chars_eq_cons
      rw [List.flatMap_cons, shape] at isHead
      cases isHead
      exact Or.inl begins

/-- What is written after a symbol cannot be taken for a part of it, and no text begins like one
that names an interpreter. -/
theorem head?_writtenAfter
    {last? : Option Symbol}
    {final : List Trivia}
    {placed : List Placed}
    {c : Char}
    (isHead : c ∈ (writtenAfter last? final placed).head?) :
    c ≠ '#' ∧ ∀ last ∈ last?, last.runsInto c = false := by
  have ofTrivia (begins : beginsTrivia c = true) :
      c ≠ '#' ∧ ∀ last ∈ last?, last.runsInto c = false := by
    refine ⟨?_, fun last _ => runsInto_eq_false_of_beginsTrivia last begins⟩
    rintro rfl
    revert begins
    decide
  cases placed with
  | nil =>
      rw [writtenAfter, ← List.append_nil (final.flatMap Trivia.chars)] at isHead
      rcases beginsTrivia_of_head?_flatMap isHead with begins | ⟨-, isNone⟩
      · exact ofTrivia begins
      · cases isNone
  | cons first rest =>
      rcases beginsTrivia_of_head?_flatMap isHead with begins | ⟨isTight, inSymbol⟩
      · exact ofTrivia begins
      · obtain ⟨begin, others, shape, -, notHash⟩ := first.symbol.exists_chars_eq_cons
        rw [shape] at inSymbol
        cases inSymbol
        refine ⟨notHash, fun last isLast => ?_⟩
        cases isLast
        by_contra runs
        -- Nothing is between the two symbols, but then a space would have been put there.
        have spaced : keptApart (some last) first ≠ [] := by
          unfold keptApart
          split
          · exact List.cons_ne_nil _ _
          · next notTight =>
              intro isEmpty
              simp [isEmpty, shape] at notTight
              simp [notTight] at runs
        exact spaced isTight

/-- The tokens of symbols one after another. -/
theorem tokensFrom_writtenAfter
    (final : List Trivia)
    (placed : List Placed)
    {fuel : Nat}
    (enough : placed.length ≤ fuel)
    (last? : Option Symbol) :
    tokensFrom fuel ⟨[], last?.map Symbol.kind⟩ (writtenAfter last? final placed) =
      placed.map Placed.token := by
  induction placed generalizing fuel last? with
  | nil =>
      exact tokensFrom_trivia final fuel _
  | cons first rest inductionHypothesis =>
      obtain ⟨fuel, rfl⟩ := Nat.exists_eq_add_one.mpr (Nat.lt_of_lt_of_le (by simp) enough)
      have isEnd :
          ∀ c ∈ (writtenAfter (some first.symbol) final rest).head?,
            first.symbol.runsInto c = false :=
        fun c isHead => (head?_writtenAfter isHead).2 first.symbol rfl
      have others :=
        inductionHypothesis (Nat.le_of_succ_le_succ enough) (some first.symbol)
      rw [writtenAfter, tokensFrom_symbol _ isEnd, any_breaksLine_keptApart, List.map_cons]
      exact congrArg _ others

/-- As many symbols as are written, at least so many characters are. -/
theorem length_le_writtenAfter
    (last? : Option Symbol)
    (final : List Trivia)
    (placed : List Placed) :
    placed.length ≤ (writtenAfter last? final placed).length := by
  induction placed generalizing last? with
  | nil =>
      exact Nat.zero_le _
  | cons first rest inductionHypothesis =>
      obtain ⟨begin, others, shape, -⟩ := first.symbol.exists_chars_eq_cons
      have fewer := inductionHypothesis (some first.symbol)
      simp only [writtenAfter, shape, List.length_append, List.length_cons]
      omega

/-- The tokens of a printed text are its symbols in their places. -/
theorem tokens_writtenAfter
    (final : List Trivia)
    (placed : List Placed) :
    tokens (String.ofList (writtenAfter none final placed)) = placed.map Placed.token := by
  have noInterpreter :
      withoutInterpreter (writtenAfter none final placed) = writtenAfter none final placed := by
    unfold withoutInterpreter
    split
    · next rest shape =>
        have notHash := (head?_writtenAfter (c := '#') (by rw [shape]; rfl)).1
        exact absurd rfl notHash
    · rfl
  have enough := length_le_writtenAfter none final placed
  have read :=
    tokensFrom_writtenAfter final placed (Nat.le_succ_of_le enough) none
  simpa [tokens, noInterpreter] using read

/-! ## Pieces of a text -/

/-- A sign between members. -/
inductive Separator where
  | semicolon
  | comma
  deriving Repr, DecidableEq

def Separator.symbol : Separator → Symbol
  | .semicolon => .sign .semicolon
  | .comma => .sign .comma

/-- A piece of a text. -/
inductive Piece where
  /-- A symbol anywhere. -/
  | plain (symbol : Symbol)
  /-- A symbol on the line of the one before it. -/
  | onSameLine (symbol : Symbol)
  /-- A symbol that begins another member, with what separates it from the member before it. -/
  | nextMember (symbol : Symbol)
  /-- What may separate the last member from the brace after it. -/
  | afterMembers
  /-- What may end a statement. -/
  | afterStatement

/-- What can be chosen about the place of one piece. -/
structure Spacing where
  before : List Trivia
  /-- The sign to separate with, if it is to be a sign and not the end of a line. -/
  separator? : Option Separator
  /-- What stands between the sign and what it separates. -/
  after : List Trivia

/-- What can be chosen about a text: the places of its pieces, and what stands at its end. -/
structure Layout where
  spacing : Nat → Spacing
  final : List Trivia

/-- The same with a line break at its end, if there is none in it. -/
def withLineBreak
    (trivia : List Trivia) : List Trivia :=
  if trivia.any Trivia.breaksLine then trivia else trivia ++ [.newLine]

/-- The symbols of a piece in their places. -/
def Piece.place
    (spacing : Spacing) : Piece → List Placed
  | .plain symbol => [⟨spacing.before, symbol⟩]
  | .onSameLine symbol => [⟨spacing.before.filter fun trivia => !trivia.breaksLine, symbol⟩]
  | .nextMember symbol =>
      match spacing.separator? with
      | some separator => [⟨spacing.before, separator.symbol⟩, ⟨spacing.after, symbol⟩]
      | none => [⟨withLineBreak (spacing.before ++ spacing.after), symbol⟩]
  | .afterMembers =>
      match spacing.separator? with
      | some separator => [⟨spacing.before, separator.symbol⟩]
      | none => []
  | .afterStatement =>
      match spacing.separator? with
      | some .semicolon => [⟨spacing.before, .sign .semicolon⟩]
      | _ => []

/-- The symbols of pieces in their places. -/
def placeAll
    (spacing : Nat → Spacing) : List Piece → List Placed
  | [] => []
  | piece :: pieces => piece.place (spacing 0) ++ placeAll (fun index => spacing (index + 1)) pieces

/-- The text of pieces in a layout. -/
def Layout.print
    (layout : Layout)
    (pieces : List Piece) : String :=
  String.ofList (writtenAfter none layout.final (placeAll layout.spacing pieces))

/-! ## What pieces are read as -/

/-- Tokens that a piece can be read as. -/
inductive Piece.IsRead : Piece → List Token → Prop where
  | plain
      {symbol : Symbol}
      (lineBreak : Bool) :
      IsRead (.plain symbol) [⟨symbol.kind, lineBreak⟩]
  | onSameLine
      {symbol : Symbol} :
      IsRead (.onSameLine symbol) [⟨symbol.kind, false⟩]
  | separated
      {symbol : Symbol}
      (separator : Separator)
      (lineBreak laterLineBreak : Bool) :
      IsRead (.nextMember symbol)
        [⟨separator.symbol.kind, lineBreak⟩, ⟨symbol.kind, laterLineBreak⟩]
  | onNewLine
      {symbol : Symbol} :
      IsRead (.nextMember symbol) [⟨symbol.kind, true⟩]
  | separatedLast
      (separator : Separator)
      (lineBreak : Bool) :
      IsRead .afterMembers [⟨separator.symbol.kind, lineBreak⟩]
  | last :
      IsRead .afterMembers []
  | ended
      (lineBreak : Bool) :
      IsRead .afterStatement [⟨(Symbol.sign .semicolon).kind, lineBreak⟩]
  | unended :
      IsRead .afterStatement []

/-- Tokens that begin with what pieces are read as, and go on with others. -/
inductive AreRead : List Piece → List Token → List Token → Prop where
  | nil
      {rest : List Token} :
      AreRead [] rest rest
  | cons
      {piece : Piece}
      {pieces : List Piece}
      {own tokens rest : List Token} :
      piece.IsRead own →
      AreRead pieces tokens rest →
      AreRead (piece :: pieces) (own ++ tokens) rest

/-- A symbol that can be anywhere is read as one token. -/
theorem areRead_plain_iff
    {symbol : Symbol}
    {pieces : List Piece}
    {tokens rest : List Token} :
    AreRead (.plain symbol :: pieces) tokens rest ↔
      ∃ lineBreak later,
        tokens = ⟨symbol.kind, lineBreak⟩ :: later ∧ AreRead pieces later rest := by
  constructor
  · intro read
    cases read with
    | cons isRead others =>
        cases isRead with
        | plain lineBreak => exact ⟨lineBreak, _, rfl, others⟩
  · rintro ⟨lineBreak, later, rfl, others⟩
    exact .cons (.plain lineBreak) others

/-- A symbol that has to be on the line of the one before it is read as a token there. -/
theorem areRead_onSameLine_iff
    {symbol : Symbol}
    {pieces : List Piece}
    {tokens rest : List Token} :
    AreRead (.onSameLine symbol :: pieces) tokens rest ↔
      ∃ later, tokens = ⟨symbol.kind, false⟩ :: later ∧ AreRead pieces later rest := by
  constructor
  · intro read
    cases read with
    | cons isRead others =>
        cases isRead with
        | onSameLine => exact ⟨_, rfl, others⟩
  · rintro ⟨later, rfl, others⟩
    exact .cons .onSameLine others

/-- Pieces are read one after another. -/
theorem areRead_append_iff
    {earlier later : List Piece}
    {tokens rest : List Token} :
    AreRead (earlier ++ later) tokens rest ↔
      ∃ between, AreRead earlier tokens between ∧ AreRead later between rest := by
  induction earlier generalizing tokens with
  | nil =>
      constructor
      · intro read
        exact ⟨tokens, .nil, read⟩
      · rintro ⟨between, none, read⟩
        cases none
        exact read
  | cons piece pieces inductionHypothesis =>
      constructor
      · intro read
        cases read with
        | cons isRead others =>
            obtain ⟨between, first, second⟩ := inductionHypothesis.mp others
            exact ⟨between, .cons isRead first, second⟩
      · rintro ⟨between, first, second⟩
        cases first with
        | cons isRead others =>
            exact .cons isRead (inductionHypothesis.mpr ⟨between, others, second⟩)

/-- Nothing is read of no pieces. -/
theorem areRead_nil_iff
    {tokens rest : List Token} :
    AreRead [] tokens rest ↔ tokens = rest := by
  constructor
  · intro read
    cases read
    rfl
  · rintro rfl
    exact .nil

/-- No tokens appear by reading. -/
theorem AreRead.length_le
    {pieces : List Piece}
    {tokens rest : List Token}
    (read : AreRead pieces tokens rest) :
    rest.length ≤ tokens.length := by
  induction read with
  | nil =>
      exact Nat.le_refl _
  | cons isRead others inductionHypothesis =>
      rw [List.length_append]
      omega

/-- With a line break at its end if there is none in it, it has one. -/
theorem any_breaksLine_withLineBreak
    (trivia : List Trivia) :
    (withLineBreak trivia).any Trivia.breaksLine = true := by
  unfold withLineBreak
  split
  · next breaks => exact breaks
  · simp [Trivia.newLine, Trivia.breaksLine, isLineBreak]

/-- A piece is read as what it asks for, wherever its symbols are placed. -/
theorem Piece.isRead_place
    (spacing : Spacing)
    (piece : Piece) :
    piece.IsRead ((piece.place spacing).map Placed.token) := by
  cases piece with
  | plain symbol =>
      exact .plain _
  | onSameLine symbol =>
      have inLine :
          (spacing.before.filter fun trivia => !trivia.breaksLine).any Trivia.breaksLine =
            false := by
        simp
      simp only [place, List.map_cons, List.map_nil, Placed.token, inLine]
      exact .onSameLine
  | nextMember symbol =>
      cases chosen : spacing.separator? with
      | none =>
          simp only [place, chosen, List.map_cons, List.map_nil, Placed.token,
            any_breaksLine_withLineBreak]
          exact .onNewLine
      | some separator =>
          simp only [place, chosen, List.map_cons, List.map_nil, Placed.token]
          exact .separated separator _ _
  | afterMembers =>
      cases chosen : spacing.separator? with
      | none =>
          simp only [place, chosen, List.map_nil]
          exact .last
      | some separator =>
          simp only [place, chosen, List.map_cons, List.map_nil, Placed.token]
          exact .separatedLast separator _
  | afterStatement =>
      cases chosen : spacing.separator? with
      | none =>
          simp only [place, chosen, List.map_nil]
          exact .unended
      | some separator =>
          cases separator with
          | semicolon =>
              simp only [place, chosen, List.map_cons, List.map_nil, Placed.token]
              exact .ended _
          | comma =>
              simp only [place, chosen, List.map_nil]
              exact .unended

/-- Pieces are read as what they ask for, wherever their symbols are placed. -/
theorem areRead_placeAll
    (spacing : Nat → Spacing)
    (pieces : List Piece) :
    AreRead pieces ((placeAll spacing pieces).map Placed.token) [] := by
  induction pieces generalizing spacing with
  | nil =>
      exact .nil
  | cons piece pieces inductionHypothesis =>
      rw [placeAll, List.map_append]
      exact .cons (piece.isRead_place _) (inductionHypothesis _)

/-- A printed text is read as what its pieces ask for, in every layout. -/
theorem areRead_print
    (layout : Layout)
    (pieces : List Piece) :
    AreRead pieces (tokens (layout.print pieces)) [] := by
  rw [Layout.print, tokens_writtenAfter]
  exact areRead_placeAll layout.spacing pieces

end Tablewright.Schema
