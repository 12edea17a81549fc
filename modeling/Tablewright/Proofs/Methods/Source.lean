import Tablewright.Proofs.Methods.Catalogue
import Tablewright.Proofs.Naming.Kept
import Tablewright.Proofs.Text.Literal
import Tablewright.Proofs.Text.SourceLines

/-!
# Source code of method blocks

The name of a table stands in its block in three places: in the names of methods, which have to be
identifiers, in literals, which are read back as the name, and in the comment, as it is. So the lines
of a block are the intended ones unless the name brings line ends into the comment, and this takes an
override: without one the method names have the line ends of the table in them too.
-/

namespace Tablewright.Methods

open Naming (NameForms)
open Text (IsOneLine)

/-! ## Literals -/

/-- What stands behind the table in a call of the primitive. -/
def Primitive.furtherArguments
    (primitive : Primitive) : String :=
  let names :=
    primitive.signature.positional.map Parameter.name ++
      primitive.signature.namedOnly.map fun parameter => parameter.name ++ "=" ++ parameter.name
  String.join (names.map (", " ++ ·)) ++ ")"

/-- A call gives the primitive the literal of the table, and then the other arguments. -/
theorem Forwarder.callLine_eq
    (forwarder : Forwarder) :
    forwarder.callLine =
      "        return self." ++ forwarder.primitive.name ++ "(" ++
        (Text.quoted forwarder.table ++ forwarder.primitive.furtherArguments) := by
  unfold callLine Primitive.furtherArguments
  simp only [List.cons_append, Text.intercalate_cons_eq_join, String.append_assoc]

/-- The other arguments do not go on with the literal, and no line ends in them. -/
theorem Primitive.furtherArguments_isFurther
    (primitive : Primitive) :
    primitive.furtherArguments.toList.head? ≠ some '\'' ∧
      IsOneLine primitive.furtherArguments.toList := by
  cases primitive <;> decide +kernel

/-- The literal of a table is on one line and means the name of the table, alone and in every call of
a primitive, and tables that differ have different literals. -/
theorem table_literal_reads_back :
    (∀ table : String,
      (∀ c ∈ (Text.quoted table).toList, Text.isLineEnd c = false) ∧
        Text.readLiteral? (Text.quoted table).toList = some (table.toList, []) ∧
        ∀ (name : String) (primitive : Primitive),
          ∃ arguments : String,
            (Forwarder.mk name table primitive).callLine =
                "        return self." ++ primitive.name ++ "(" ++
                  (Text.quoted table ++ arguments) ∧
              Text.readLiteral? (Text.quoted table ++ arguments).toList =
                some (table.toList, arguments.toList)) ∧
      Function.Injective Text.quoted := by
  have reads (table : String) {after : List Char} (apart : after.head? ≠ some '\'') :
      Text.readLiteral? ((Text.quoted table).toList ++ after) = some (table.toList, after) := by
    rw [Text.quoted, String.toList_ofList]
    exact Text.readLiteral?_quoteChars table.toList apart
  have readsAlone (table : String) :
      Text.readLiteral? (Text.quoted table).toList = some (table.toList, []) := by
    have noneAfter := reads table (List.head?_nil.trans_ne (Option.some_ne_none '\'').symm)
    rwa [List.append_nil] at noneAfter
  refine ⟨fun table => ⟨fun c => Text.isLineEnd_of_mem_quoted, readsAlone table, ?_⟩, ?_⟩
  · intro name primitive
    refine ⟨primitive.furtherArguments, Forwarder.callLine_eq _, ?_⟩
    rw [String.toList_append]
    exact reads table primitive.furtherArguments_isFurther.1
  · intro table other same
    have sameText := readsAlone table
    rw [same, readsAlone other] at sameText
    exact String.toList_inj.mp (Prod.mk.inj (Option.some.inj sameText)).1.symm

/-- A name with both quotes, a backslash before digits, a line feed and characters that cannot be
shown. -/
private def nameOfSigns : String :=
  "it's \"\\x41\"\n\u00ad1\u2028"

theorem table_literal_reads_back_of_signs :
    Text.quoted nameOfSigns = "'it\\'s \"\\\\x41\"\\n\\xad1\\u2028'" ∧
      (∀ c ∈ (Text.quoted nameOfSigns).toList, Text.isLineEnd c = false) ∧
      Text.readLiteral? (Text.quoted nameOfSigns).toList = some (nameOfSigns.toList, []) := by
  obtain ⟨oneLine, reads, -⟩ := table_literal_reads_back.1 nameOfSigns
  exact ⟨by decide +kernel, oneLine, reads⟩

/-! ## Lines -/

/-- The parameters of a primitive as they are declared by its methods. -/
def Primitive.declaredParameters
    (primitive : Primitive) : List String :=
  let named :=
    if primitive.signature.namedOnly.isEmpty then []
    else "*" :: primitive.signature.namedOnly.map Parameter.render
  "self" :: primitive.signature.positional.map Parameter.render ++ named

/-- No line ends in the types and defaults of parameters. -/
theorem Primitive.isOneLine_signature
    (primitive : Primitive) :
    IsOneLine (String.intercalate ", " primitive.declaredParameters).toList ∧
      (∀ parameter ∈ primitive.declaredParameters, IsOneLine parameter.toList) ∧
      IsOneLine primitive.signature.result.toList := by
  cases primitive <;> decide +kernel

namespace Forwarder

/-- The lines that declare a method are lines if the name of the method is. -/
theorem isOneLine_of_mem_headerLines
    (forwarder : Forwarder)
    (named : IsOneLine forwarder.name.toList)
    {line : String}
    (member : line ∈ forwarder.headerLines) :
    IsOneLine line.toList := by
  obtain ⟨together, apart, result⟩ := forwarder.primitive.isOneLine_signature
  have isHeader :
      forwarder.headerLines =
        if forwarder.primitive.isSpread then
          ["    def " ++ forwarder.name ++ "("] ++
            (forwarder.primitive.declaredParameters.map fun parameter =>
              "        " ++ parameter ++ ",") ++
            ["    ) -> " ++ forwarder.primitive.signature.result ++ ":"]
        else
          ["    def " ++ forwarder.name ++ "(" ++
            String.intercalate ", " forwarder.primitive.declaredParameters ++ ") -> " ++
            forwarder.primitive.signature.result ++ ":"] :=
    rfl
  rw [isHeader] at member
  split at member
  · simp only [List.mem_append, List.mem_singleton, List.mem_map] at member
    rcases member with (rfl | ⟨parameter, isParameter, rfl⟩) | rfl
    · simp only [String.toList_append, IsOneLine.append_iff]
      exact ⟨⟨by decide, named⟩, by decide⟩
    · simp only [String.toList_append, IsOneLine.append_iff]
      exact ⟨⟨by decide, apart parameter isParameter⟩, by decide⟩
    · simp only [String.toList_append, IsOneLine.append_iff]
      exact ⟨⟨by decide, result⟩, by decide⟩
  · rw [List.mem_singleton.mp member]
    simp only [String.toList_append, IsOneLine.append_iff]
    exact ⟨⟨⟨⟨⟨⟨by decide, named⟩, by decide⟩, together⟩, by decide⟩, result⟩, by decide⟩

/-- The line that calls the primitive is a line, whatever the name of the table is. -/
theorem isOneLine_callLine
    (forwarder : Forwarder) :
    IsOneLine forwarder.callLine.toList := by
  have literal : IsOneLine (Text.quoted forwarder.table).toList := by
    rw [IsOneLine.iff_forall]
    intro c member
    have noEnd := Text.isLineEnd_of_mem_quoted member
    constructor <;> rintro rfl <;> revert noEnd <;> decide
  have primitiveName : IsOneLine forwarder.primitive.name.toList := by
    cases forwarder.primitive <;> decide
  rw [callLine_eq]
  simp only [String.toList_append, IsOneLine.append_iff]
  exact
    ⟨⟨⟨by decide, primitiveName⟩, by decide⟩, literal,
      forwarder.primitive.furtherArguments_isFurther.2⟩

end Forwarder

namespace MethodBlock

/-- The lines of the source code of a block as the generated language finds them. -/
def sourceLines
    (block : MethodBlock) : List String :=
  (Text.sourceLines block.code.toList).map String.ofList

/-- How many lines each block has. -/
def lineCount : Nat := 30

/-- The source code of a block is an empty line, the comment on one line and the definitions in the
order of the primitives, with empty lines between them and nothing behind the last one. -/
structure HasShape
    (block : MethodBlock) : Prop where
  sourceLines_eq :
    block.sourceLines =
      "" :: ("    # " ++ block.forms.pascal) ::
        List.intercalate [""] (Primitive.all.map fun primitive =>
          (Forwarder.mk (methodName block.style block.forms primitive) block.table primitive).lines)
  length_sourceLines : block.sourceLines.length = lineCount

/-- The lines of the definitions of a block, with empty lines between them. -/
def definitionLines
    (block : MethodBlock) : List String :=
  List.intercalate [""] (block.forwarders.map Forwarder.lines)

/-- The definitions of a block are lines if its method names are. -/
theorem isOneLine_of_mem_definitionLines
    {block : MethodBlock}
    (named : ∀ name ∈ block.names, IsOneLine name.toList)
    {line : String}
    (member : line ∈ block.definitionLines) :
    IsOneLine line.toList := by
  rcases Text.mem_of_mem_intercalate member with isEmpty | ⟨definition, isDefinition, inLines⟩
  · rw [List.mem_singleton.mp isEmpty]
    exact .nil
  · obtain ⟨forwarder, isForwarder, rfl⟩ := List.mem_map.mp isDefinition
    obtain ⟨primitive, -, rfl⟩ := List.mem_map.mp isForwarder
    rw [Forwarder.lines, List.mem_append, List.mem_singleton] at inLines
    rcases inLines with inHeader | rfl
    · exact Forwarder.isOneLine_of_mem_headerLines _
        (named _ (methodName_mem_names block primitive)) inHeader
    · exact Forwarder.isOneLine_callLine _

/-- The lines of a block are an empty one, those of its comment, and those of its definitions. -/
theorem sourceLines_eq
    {block : MethodBlock}
    (named : ∀ name ∈ block.names, IsOneLine name.toList)
    (comment : List (List Char))
    (nonempty : comment ≠ [])
    (oneLine : ∀ line ∈ comment, IsOneLine line)
    (isComment : block.commentLine.toList = ['\n'].intercalate comment) :
    block.sourceLines = "" :: (comment.map String.ofList ++ block.definitionLines) := by
  let definitions := block.definitionLines.map String.toList
  have definitionsNonempty : definitions ≠ [] :=
    List.cons_ne_nil _ _
  have isLines :
      block.lines.map String.toList = [] :: block.commentLine.toList :: definitions :=
    rfl
  have isCode : block.code.toList = ['\n'].intercalate ([] :: (comment ++ definitions)) := by
    have lineFeed : "\n".toList = ['\n'] :=
      rfl
    rw [code, String.toList_intercalate, lineFeed, isLines,
      List.intercalate_cons_cons, List.intercalate_cons_of_ne_nil definitionsNonempty, isComment,
      List.intercalate_cons_of_ne_nil (List.append_ne_nil_of_left_ne_nil nonempty _),
      Text.intercalate_append nonempty definitionsNonempty]
  have allOneLine : ∀ line ∈ [] :: (comment ++ definitions), IsOneLine line := by
    rw [List.forall_mem_cons, List.forall_mem_append, List.forall_mem_map]
    exact ⟨.nil, oneLine, fun line => isOneLine_of_mem_definitionLines named⟩
  rw [sourceLines, isCode, Text.sourceLines_intercalate (List.cons_ne_nil _ _) allOneLine,
    List.map_cons, List.map_append, List.map_map]
  simp

/-- A block whose method names are lines has its shape exactly when its comment is on one line. -/
theorem hasShape_iff_isOneLine
    {block : MethodBlock}
    (named : ∀ name ∈ block.names, IsOneLine name.toList) :
    block.HasShape ↔ IsOneLine block.forms.pascal.toList := by
  constructor
  · intro shape
    have isComment : "    # " ++ block.forms.pascal ∈ block.sourceLines := by
      rw [shape.sourceLines_eq]
      simp
    obtain ⟨line, isLine, isText⟩ := List.mem_map.mp isComment
    have oneLine := Text.isOneLine_of_mem_sourceLines isLine
    have letters := congrArg String.toList isText
    rw [String.toList_ofList, String.toList_append] at letters
    rw [letters, IsOneLine.append_iff] at oneLine
    exact oneLine.2
  · intro comment
    have oneLine : IsOneLine block.commentLine.toList := by
      rw [commentLine, String.toList_append, IsOneLine.append_iff]
      exact ⟨by decide, comment⟩
    have found := sourceLines_eq named [block.commentLine.toList] (by simp)
      (by simpa using oneLine) (by simp)
    rw [List.map_singleton, String.ofList_toList] at found
    exact ⟨found, by rw [found]; rfl⟩

/-! ## Blocks of tables -/

section Tables

variable {plan : NamingPlan}
variable {table : String}
variable {block : MethodBlock}

/-- The method names of a block that is made can be defined. -/
theorem isDefinable_of_ofTable
    (made : ofTable plan table = .ok block) :
    ∀ name ∈ block.names, Text.isDefinable name = true := by
  obtain ⟨-, -, -, faultless⟩ := eq_of_ofTable made
  intro name member
  have noFault := List.findSome?_eq_none_iff.mp faultless name member
  unfold nameFault? at noFault
  split at noFault
  · cases noFault
  · next definable =>
      simpa using definable

theorem isOneLine_names_of_ofTable
    (made : ofTable plan table = .ok block) :
    ∀ name ∈ block.names, IsOneLine name.toList := by
  intro name member
  have definable := isDefinable_of_ofTable made name member
  exact
    ⟨Text.not_mem_of_isDefinable definable (by decide +kernel) (by decide +kernel),
      Text.not_mem_of_isDefinable definable (by decide +kernel) (by decide +kernel)⟩

/-- What stands in the singular stands in the name of a method. -/
theorem mem_methodName_getById
    {c : Char}
    (caseless : Text.IsCaseless c)
    (noLowLine : c ≠ '_')
    (style : MethodStyle)
    (raw : String)
    {inflection : Naming.Inflection}
    (member : c ∈ inflection.singular.toList) :
    c ∈ (methodName style (NameForms.ofInflection raw inflection) .getById).toList := by
  rw [methodName, String.toList_append]
  apply List.mem_append_right
  cases style with
  | camel =>
      exact member
  | snake =>
      have inSnake := (Naming.mem_snakeChars_iff caseless noLowLine).mpr member
      simpa [Primitive.form, Primitive.isPlural, MethodStyle.singular, NameForms.ofInflection,
        Naming.snake] using inSnake

/-- White space without case that stands in a table without forms of its own stands in the name of a
method, unless a hyphen does, and neither is part of an identifier. -/
theorem not_mem_of_free
    (made : ofTable plan table = .ok block)
    (free : plan.overrides.find? table = none)
    {c : Char}
    (caseless : Text.IsCaseless c)
    (blank : Text.isBlank c = true)
    (noStart : Text.isIdentifierStart c = false)
    (noContinue : Text.isIdentifierContinue c = false) :
    c ∉ table.toList := by
  obtain ⟨-, -, derived, -⟩ := eq_of_ofTable made
  obtain ⟨inflection, inflects, isForms⟩ := Naming.exists_inflection_of_derive derived
  rw [free, Option.getD_none] at isForms
  have definable := isDefinable_of_ofTable made _ (methodName_mem_names block .getById)
  rw [isForms] at definable
  intro member
  rcases Naming.mem_singular_of_inflection caseless blank inflects member with kept | joined
  · have noLowLine : c ≠ '_' :=
      Text.ne_of_isBlank blank (by decide)
    exact Text.not_mem_of_isDefinable definable noStart noContinue
      (mem_methodName_getById caseless noLowLine block.style table kept)
  · exact Text.not_mem_of_isDefinable definable (by decide +kernel) (by decide +kernel)
      (mem_methodName_getById Text.isCaseless_hyphen (by decide) block.style table joined)

/-- The Pascal form of a table is on one line if its name is. -/
theorem isOneLine_pascal_iff
    (made : ofTable plan table = .ok block) :
    IsOneLine block.forms.pascal.toList ↔ IsOneLine table.toList := by
  obtain ⟨-, -, derived, -⟩ := eq_of_ofTable made
  obtain ⟨inflection, -, isForms⟩ := Naming.exists_inflection_of_derive derived
  have isPascal : block.forms.pascal.toList = Naming.pascalChars table.toList := by
    rw [isForms]
    exact String.toList_ofList
  have lineFeed : '\n' ∈ Naming.pascalChars table.toList ↔ '\n' ∈ table.toList :=
    Naming.mem_pascalChars_iff Text.isCaseless_lineFeed (by decide)
  have carriageReturn : '\r' ∈ Naming.pascalChars table.toList ↔ '\r' ∈ table.toList :=
    Naming.mem_pascalChars_iff Text.isCaseless_return (by decide)
  rw [isPascal]
  constructor
  · rintro ⟨noLineFeed, noReturn⟩
    exact ⟨mt lineFeed.mpr noLineFeed, mt carriageReturn.mpr noReturn⟩
  · rintro ⟨noLineFeed, noReturn⟩
    exact ⟨mt lineFeed.mp noLineFeed, mt carriageReturn.mp noReturn⟩

end Tables

end MethodBlock

/-- A block that is made has its shape exactly when no line ends in the name of the table, and for a
table without forms of its own it always has. -/
theorem block_hasShape_iff
    {plan : NamingPlan}
    {table : String}
    {block : MethodBlock}
    (made : MethodBlock.ofTable plan table = .ok block) :
    (block.HasShape ↔ '\n' ∉ table.toList ∧ '\r' ∉ table.toList) ∧
      (plan.overrides.find? table = none → block.HasShape) := by
  have shapeIff : block.HasShape ↔ IsOneLine table.toList := by
    rw [MethodBlock.hasShape_iff_isOneLine (MethodBlock.isOneLine_names_of_ofTable made),
      MethodBlock.isOneLine_pascal_iff made]
  refine ⟨?_, fun free => shapeIff.mpr ⟨?_, ?_⟩⟩
  · rw [shapeIff]
    exact ⟨fun oneLine => ⟨oneLine.noLineFeed, oneLine.noReturn⟩,
      fun oneLine => ⟨oneLine.1, oneLine.2⟩⟩
  · exact MethodBlock.not_mem_of_free made free Text.isCaseless_lineFeed (by decide)
      (by decide +kernel) (by decide +kernel)
  · exact MethodBlock.not_mem_of_free made free Text.isCaseless_return (by decide)
      (by decide +kernel) (by decide +kernel)

/-- The forms of two tables whose names are no words. -/
private def formsOfSigns : Naming.Overrides :=
  [("it's \"one\"", ⟨"Post", "Posts"⟩), ("a\n    x = 1", ⟨"Post", "Posts"⟩)]

/-- A table with quotes in its name, and one that the lexicon inflects. -/
theorem block_hasShape_iff_of_quotes :
    ∃ block other,
      MethodBlock.ofTable ⟨formsOfSigns, .suffix, .camel⟩ "it's \"one\"" = .ok block ∧
        block.HasShape ∧
        MethodBlock.ofTable ⟨formsOfSigns, .inflect, .snake⟩ "user_data" = .ok other ∧
        Naming.Overrides.find? formsOfSigns "user_data" = none ∧
        other.HasShape := by
  obtain ⟨block, made, -⟩ :=
    exists_ok_of_decide (MethodBlock.ofTable ⟨formsOfSigns, .suffix, .camel⟩ "it's \"one\"")
      (fun _ => True) (by decide +kernel)
  obtain ⟨other, otherMade, -⟩ :=
    exists_ok_of_decide (MethodBlock.ofTable ⟨formsOfSigns, .inflect, .snake⟩ "user_data")
      (fun _ => True) (by decide +kernel)
  exact ⟨block, other, made, (block_hasShape_iff made).1.mpr (by decide), otherMade, by decide,
    (block_hasShape_iff otherMade).2 (by decide)⟩

/-- A line feed in the name of a table ends its comment. What follows it in the name is a statement of
the class. -/
theorem block_adds_line_of_line_feed :
    (∀ entry ∈ formsOfSigns,
        Text.isIdentifier entry.2.singular = true ∧ Text.isIdentifier entry.2.plural = true) ∧
      ∃ block,
        MethodBlock.ofTable ⟨formsOfSigns, .suffix, .camel⟩ "a\n    x = 1" = .ok block ∧
          "    x = 1" ∈ block.sourceLines ∧
          block.sourceLines.length = MethodBlock.lineCount + 1 ∧
          ¬ block.HasShape := by
  refine ⟨by decide +kernel, ?_⟩
  obtain ⟨block, made, isPascal⟩ :=
    exists_ok_of_decide (MethodBlock.ofTable ⟨formsOfSigns, .suffix, .camel⟩ "a\n    x = 1")
      (fun block => block.forms.pascal = "A\n    x = 1") (by decide +kernel)
  have found :
      block.sourceLines = "" :: (["    # A", "    x = 1"] ++ block.definitionLines) :=
    MethodBlock.sourceLines_eq (MethodBlock.isOneLine_names_of_ofTable made)
      ["    # A".toList, "    x = 1".toList] (by decide) (by decide)
      (by rw [MethodBlock.commentLine, isPascal]; decide)
  have longer : block.sourceLines.length = MethodBlock.lineCount + 1 := by
    rw [found]
    rfl
  refine ⟨block, made, by simp [found], longer, fun shape => ?_⟩
  rw [shape.length_sourceLines] at longer
  omega

end Tablewright.Methods
