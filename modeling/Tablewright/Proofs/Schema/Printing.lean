import Tablewright.Proofs.Schema.Reading
import Tablewright.Schema.Extraction

/-!
# Printed schemas

A database is printed as one type, an object type with a member for each section of the schema:

    export type Database = {
      public: {
        Tables: { post: { Row: { id: number }; Insert: {}; Update: {}; Relationships: [] } }
        Views: { [_ in never]: never }
        Functions: { [_ in never]: never }
        Enums: { status: "draft" | "published" }
      }
    }

What is extracted from the text are the tables of the sections in their order, in every layout.
-/

namespace Tablewright.Schema

/-! ## Databases -/

/-- A name other than that of the properties that hold tables. -/
structure OrdinaryName extends Identifier where
  isOrdinary : spelling ≠ tablesName

structure Column where
  name : Identifier
  optional : Bool
  type : Alternative
  otherTypes : List Alternative

/-- A table with its columns as they are read, inserted and updated. -/
structure Table where
  name : OrdinaryName
  row : List Column
  insert : List Column
  update : List Column

structure View where
  name : OrdinaryName
  row : List Column

/-- A function with its arguments and the type of its result. -/
structure Procedure where
  name : OrdinaryName
  arguments : List Column
  result : Alternative
  otherResults : List Alternative

/-- A type with its values. -/
structure Enumeration where
  name : Identifier
  value : Literal
  otherValues : List Literal

/-- The entries of one kind. Where there are none, a member for none of all keys can be written. -/
inductive Entries (α : Type) where
  | noKeys
  | listed (entries : List α)

def Entries.toList
    {α : Type} : Entries α → List α
  | .noKeys => []
  | .listed entries => entries

/-- A section of the schema of a database. -/
structure Section where
  name : OrdinaryName
  tables : Entries Table
  views : Entries View
  procedures : Entries Procedure
  enumerations : Entries Enumeration

/-! ## Their shapes -/

/-- A member that may not be left out. -/
def required
    (name : Identifier)
    (shape : Shape) : Key × Shape :=
  (⟨name, false⟩, shape)

def Column.member
    (column : Column) : Key × Shape :=
  (⟨column.name, column.optional⟩, .alternatives column.type column.otherTypes)

def shapeOfColumns
    (columns : List Column) : Shape :=
  .object (columns.map Column.member)

def Table.member
    (table : Table) : Key × Shape :=
  required table.name.toIdentifier <| .object
    [required ⟨"Row", by decide⟩ (shapeOfColumns table.row),
      required ⟨"Insert", by decide⟩ (shapeOfColumns table.insert),
      required ⟨"Update", by decide⟩ (shapeOfColumns table.update),
      required ⟨"Relationships", by decide⟩ .emptyTuple]

def View.member
    (view : View) : Key × Shape :=
  required view.name.toIdentifier <| .object
    [required ⟨"Row", by decide⟩ (shapeOfColumns view.row),
      required ⟨"Relationships", by decide⟩ .emptyTuple]

def Procedure.member
    (procedure : Procedure) : Key × Shape :=
  required procedure.name.toIdentifier <| .object
    [required ⟨"Args", by decide⟩ (shapeOfColumns procedure.arguments),
      required ⟨"Returns", by decide⟩ (.alternatives procedure.result procedure.otherResults)]

def Enumeration.member
    (enumeration : Enumeration) : Key × Shape :=
  required enumeration.name <|
    .alternatives (.quoted enumeration.value) (enumeration.otherValues.map .quoted)

/-- The type of entries that are each a member. -/
def Entries.shape
    {α : Type}
    (member : α → Key × Shape) : Entries α → Shape
  | .noKeys => .noKeys
  | .listed entries => .object (entries.map member)

def Section.member
    (part : Section) : Key × Shape :=
  required part.name.toIdentifier <| .object
    [required ⟨tablesName, by decide⟩ (part.tables.shape Table.member),
      required ⟨"Views", by decide⟩ (part.views.shape View.member),
      required ⟨"Functions", by decide⟩ (part.procedures.shape Procedure.member),
      required ⟨"Enums", by decide⟩ (part.enumerations.shape Enumeration.member)]

/-- The type of a database. -/
def shapeOfSections
    (sections : List Section) : Shape :=
  .object (sections.map Section.member)

/-! ## Their text -/

/-- The pieces of a statement that names the type of a database. -/
def piecesOfDatabase
    (shape : Shape) : List Piece :=
  .plain (.word ⟨"export", by decide⟩) :: .plain (.word ⟨"type", by decide⟩) ::
    .onSameLine (.word ⟨"Database", by decide⟩) :: .plain (.sign .equals) ::
      (shape.pieces ++ [.afterStatement])

/-- The text of a database in a layout. -/
def printDatabase
    (layout : Layout)
    (sections : List Section) : String :=
  layout.print (piecesOfDatabase (shapeOfSections sections))

/-! ## Reading the text -/

namespace Reader

/-- After the type a statement is at its end. -/
theorem statementEnd_of_areRead
    {tokens : List Token}
    (read : AreRead [.afterStatement] tokens []) :
    IsAtEnd typeEnds tokens ∧ statementEnd tokens = some ((), []) := by
  cases read with
  | cons isRead none =>
      obtain rfl := areRead_nil_iff.mp none
      cases isRead with
      | ended lineBreak =>
          exact ⟨.atSign (by decide), by simp [statementEnd, Symbol.kind, Sign.spelling]⟩
      | unended =>
          exact ⟨.atNone, by simp [statementEnd, atEnd]⟩

/-- The type of a database is read as one statement. -/
theorem statement_database
    {shape : Shape}
    {tokens : List Token}
    (read : AreRead (piecesOfDatabase shape) tokens [])
    {fuel : Nat}
    (enough : 16 * tokens.length ≤ fuel) :
    statement fuel tokens = some ([.leaf, shape.tree], []) := by
  obtain ⟨exportBreak, afterExport, rfl, readType⟩ := areRead_plain_iff.mp read
  obtain ⟨typeBreak, afterType, rfl, readName⟩ := areRead_plain_iff.mp readType
  obtain ⟨afterName, rfl, readEquals⟩ := areRead_onSameLine_iff.mp readName
  obtain ⟨equalsBreak, afterEquals, rfl, readBody⟩ := areRead_plain_iff.mp readEquals
  obtain ⟨afterShape, readShape, readEnd⟩ := areRead_append_iff.mp readBody
  obtain ⟨isAtEnd, ends⟩ := statementEnd_of_areRead readEnd
  simp only [List.length_cons] at enough
  obtain ⟨steps, rfl⟩ : ∃ steps, fuel = steps + 7 := Nat.exists_eq_add_of_le' (by omega)
  have readAlias : type (steps + 1) afterEquals = some (shape.tree, afterShape) :=
    shape.isReadable readShape isAtEnd (by omega)
  have named :
      typeAlias (steps + 2)
          (⟨.word "Database", false⟩ :: ⟨.sign "=", equalsBreak⟩ :: afterEquals) =
        some ([.leaf, shape.tree], []) := by
    rw [typeAlias]
    simp [typeParameters, readAlias, ends]
  have declared :
      statement (steps + 4)
          (⟨.word "type", typeBreak⟩ :: ⟨.word "Database", false⟩ ::
            ⟨.sign "=", equalsBreak⟩ :: afterEquals) =
        some ([.leaf, shape.tree], []) := by
    rw [statement]
    simp [wordStatement, wordFollows, named]
  have exportIs :
      exported (steps + 5)
          (⟨.word "type", typeBreak⟩ :: ⟨.word "Database", false⟩ ::
            ⟨.sign "=", equalsBreak⟩ :: afterEquals) =
        some ([.leaf, shape.tree], []) := by
    rw [exported]
    simp [declared]
  rw [statement]
  simp [wordStatement, wordFollows, Symbol.kind, Sign.spelling, exportIs]

end Reader

/-- A text with the type of a database is read as a whole, in every layout. -/
theorem read_print
    (layout : Layout)
    (shape : Shape) :
    read (layout.print (piecesOfDatabase shape)) =
      ⟨[.group [.leaf, shape.tree]], false⟩ := by
  have written := areRead_print layout (piecesOfDatabase shape)
  have whole :
      Reader.statement (stepsFor (tokens (layout.print (piecesOfDatabase shape))))
          (tokens (layout.print (piecesOfDatabase shape))) =
        some ([.leaf, shape.tree], []) :=
    Reader.statement_database written (by unfold stepsFor; omega)
  obtain ⟨lineBreak, later, tokensEq, -⟩ := areRead_plain_iff.mp written
  simp only [read]
  rw [tokensEq] at whole ⊢
  simp [Reader.statements, whole]

/-! ## Tables of shapes -/

/-- Alternatives hold no tables. -/
theorem tablesOfAll_alternatives
    (ancestors : Ancestors)
    (alternatives : List Alternative) :
    tablesOfAll ancestors (alternatives.map Alternative.tree) = [] := by
  induction alternatives with
  | nil =>
      rfl
  | cons first others inductionHypothesis =>
      rw [List.map_cons, tablesOfAll, inductionHypothesis]
      cases first <;> rfl

/-- The tables of members are found if those of their types are. -/
theorem tablesOfAll_trees
    {members : List (Key × Shape)}
    (each :
      ∀ member ∈ members, ∀ ancestors : Ancestors,
        tablesBelow ancestors member.2.tree =
          member.2.tables (holdsTables (ownerOf? ancestors)))
    (ancestors : Ancestors) :
    tablesOfAll (.objectType :: ancestors) (treesOfMembers members) =
      tablesOfMembers (holdsTables (ownerOf? ancestors)) members := by
  induction members with
  | nil =>
      rfl
  | cons member members inductionHypothesis =>
      obtain ⟨key, shape⟩ := member
      have own := each (key, shape) List.mem_cons_self
      have others :=
        inductionHypothesis fun other isOther => each other (List.mem_cons_of_mem _ isOther)
      rw [treesOfMembers, tablesOfAll, others, tablesOfMembers, ← List.append_assoc]
      have named :
          (tableName? (.objectType :: ancestors) (.property (some key.name.spelling))).toList =
            if holdsTables (ownerOf? ancestors) then [key.name.spelling] else [] := by
        cases holds : holdsTables (ownerOf? ancestors) <;> simp [tableName?, holds]
      have unnamed (above : Ancestors) : tableName? above .ascription = none := rfl
      simp [Tree.property, tablesBelow, tablesOfAll, unnamed, own, named, ownerOf?, holdsTables]

/-- What is found in the tree of a type by looking up is what the rule from above says: it depends on
the nodes above only through the property whose type it is. -/
theorem tablesBelow_tree
    (ancestors : Ancestors)
    (shape : Shape) :
    tablesBelow ancestors shape.tree = shape.tables (holdsTables (ownerOf? ancestors)) := by
  induction shape using Shape.members_induction generalizing ancestors with
  | alternatives first others =>
      have none := tablesOfAll_alternatives (.other :: ancestors) (first :: others)
      cases others with
      | nil => cases first <;> rfl
      | cons second others => exact none
  | emptyTuple => rfl
  | noKeys => rfl
  | object members inductionHypothesis =>
      have inMembers := tablesOfAll_trees inductionHypothesis ancestors
      simpa [Shape.tree, Tree.objectType, tablesBelow, tableName?, Shape.tables] using inMembers

/-- Where no member's type holds tables, there are no tables but the members themselves. -/
theorem tablesOfMembers_eq
    (areTables : Bool)
    {members : List (Key × Shape)}
    (each :
      ∀ member ∈ members, member.2.tables (member.1.name.spelling == tablesName) = []) :
    tablesOfMembers areTables members =
      if areTables then members.map fun member => member.1.name.spelling else [] := by
  induction members with
  | nil =>
      cases areTables <;> rfl
  | cons member members inductionHypothesis =>
      have own := each member List.mem_cons_self
      have others :=
        inductionHypothesis fun other isOther => each other (List.mem_cons_of_mem _ isOther)
      rw [tablesOfMembers, own, others]
      cases areTables <;> rfl

/-! ## Tables of databases -/

/-- Columns hold no tables, whatever they are called. -/
theorem tables_shapeOfColumns
    (columns : List Column) :
    (shapeOfColumns columns).tables false = [] := by
  refine tablesOfMembers_eq false fun member isMember => ?_
  obtain ⟨column, -, rfl⟩ := List.mem_map.mp isMember
  rfl

/-- An ordinary name is told from that of the properties that hold tables. -/
theorem beq_tablesName
    (name : OrdinaryName) :
    (name.spelling == tablesName) = false := by
  simp [name.isOrdinary]

/-- A member with an ordinary name holds no tables if its type holds none for itself. -/
theorem tables_of_ordinaryName
    (name : OrdinaryName)
    {shape : Shape}
    (holdsNone : shape.tables false = []) :
    shape.tables (name.spelling == tablesName) = [] := by
  rw [beq_tablesName]
  exact holdsNone

/-- Tables hold no tables. -/
theorem Table.tables_member
    (table : Table) :
    table.member.2.tables (table.member.1.name.spelling == tablesName) = [] := by
  refine tables_of_ordinaryName table.name (tablesOfMembers_eq false ?_)
  simp only [List.forall_mem_cons]
  exact
    ⟨tables_shapeOfColumns table.row, tables_shapeOfColumns table.insert,
      tables_shapeOfColumns table.update, rfl, List.forall_mem_nil _⟩

/-- Views hold no tables. -/
theorem View.tables_member
    (view : View) :
    view.member.2.tables (view.member.1.name.spelling == tablesName) = [] := by
  refine tables_of_ordinaryName view.name (tablesOfMembers_eq false ?_)
  simp only [List.forall_mem_cons]
  exact ⟨tables_shapeOfColumns view.row, rfl, List.forall_mem_nil _⟩

/-- Functions hold no tables. -/
theorem Procedure.tables_member
    (procedure : Procedure) :
    procedure.member.2.tables (procedure.member.1.name.spelling == tablesName) = [] := by
  refine tables_of_ordinaryName procedure.name (tablesOfMembers_eq false ?_)
  simp only [List.forall_mem_cons]
  exact ⟨tables_shapeOfColumns procedure.arguments, rfl, List.forall_mem_nil _⟩

/-- Types with values hold no tables, whatever they are called. -/
theorem Enumeration.tables_member
    (enumeration : Enumeration) :
    enumeration.member.2.tables (enumeration.member.1.name.spelling == tablesName) = [] :=
  rfl

/-- Among entries none of which holds tables, there are no tables but the entries themselves. -/
theorem Entries.tables_shape
    {α : Type}
    {member : α → Key × Shape}
    (each : ∀ entry, (member entry).2.tables ((member entry).1.name.spelling == tablesName) = [])
    (areTables : Bool)
    (entries : Entries α) :
    (entries.shape member).tables areTables =
      if areTables then entries.toList.map fun entry => (member entry).1.name.spelling else [] := by
  cases entries with
  | noKeys =>
      cases areTables <;> rfl
  | listed entries =>
      have inEntries :
          ∀ found ∈ entries.map member,
            found.2.tables (found.1.name.spelling == tablesName) = [] := by
        intro found isFound
        obtain ⟨entry, -, rfl⟩ := List.mem_map.mp isFound
        exact each entry
      have all := tablesOfMembers_eq areTables inEntries
      rw [List.map_map] at all
      exact all

/-- The tables of a section are those that are listed in it. -/
theorem Section.tables_member
    (part : Section) :
    part.member.2.tables (part.member.1.name.spelling == tablesName) =
      part.tables.toList.map fun table => table.name.spelling := by
  have tables := part.tables.tables_shape Table.tables_member true
  have views := part.views.tables_shape View.tables_member false
  have procedures := part.procedures.tables_shape Procedure.tables_member false
  have enumerations := part.enumerations.tables_shape Enumeration.tables_member false
  -- Of the four members only the first is a property that holds tables.
  have inTurn :
      part.member.2.tables false =
        (part.tables.shape Table.member).tables true ++
          ((part.views.shape View.member).tables false ++
            ((part.procedures.shape Procedure.member).tables false ++
              ((part.enumerations.shape Enumeration.member).tables false ++ []))) :=
    rfl
  change part.member.2.tables (part.name.spelling == tablesName) = _
  rw [beq_tablesName, inTurn, tables, views, procedures, enumerations]
  exact List.append_nil _

/-- The tables of a database are those of its sections. -/
theorem tables_shapeOfSections
    (sections : List Section) :
    (shapeOfSections sections).tables false =
      sections.flatMap fun part => part.tables.toList.map fun table => table.name.spelling := by
  induction sections with
  | nil =>
      rfl
  | cons part sections inductionHypothesis =>
      have inTurn :
          (shapeOfSections (part :: sections)).tables false =
            part.member.2.tables (part.member.1.name.spelling == tablesName) ++
              (shapeOfSections sections).tables false :=
        rfl
      rw [inTurn, part.tables_member, inductionHypothesis, List.flatMap_cons]

/-- A database is read from its text without a warning, and what is extracted are the tables of its
sections in their order, in every layout. -/
theorem tablesOfText_printDatabase
    (layout : Layout)
    (sections : List Section) :
    readingLog (printDatabase layout sections) = [] ∧
      tablesOfText (printDatabase layout sections) =
        sections.flatMap fun part =>
          part.tables.toList.map fun table => table.name.spelling := by
  have whole : read (printDatabase layout sections) = _ :=
    read_print layout (shapeOfSections sections)
  constructor
  · simp [readingLog, whole]
  · have inStatement :
        tablesOfText (printDatabase layout sections) =
          tablesBelow [.other, .other] (shapeOfSections sections).tree := by
      simp [tablesOfText, whole, Reader.Reading.tree, Tree.tables, Tree.group, Tree.leaf,
        tablesBelow, tablesOfAll, tableName?]
    rw [inStatement, tablesBelow_tree]
    exact tables_shapeOfSections sections

end Tablewright.Schema
