import Tablewright.Proofs.Run.Failing
import Tablewright.Proofs.Run.Writing

/-!
# The schema after a generation

A generation reads its schema and writes its output. As long as these are two files the schema stays
as it is, whatever becomes of the generation. Nothing keeps them from being one file, though, and
then a generation that succeeds puts its module in the place of the schema.
-/

namespace Tablewright.Run

open Files (Entry Path Place)
open Methods (MethodBlock)

/-- A file has one text. -/
theorem Reads.unique
    {tree : Files.Tree}
    {place : Place}
    {text other : String}
    (reads : Reads tree place text)
    (otherReads : Reads tree place other) :
    other = text := by
  obtain ⟨content, decoded, found, decodes, rfl⟩ := reads
  obtain ⟨otherContent, otherDecoded, otherFound, otherDecodes, rfl⟩ := otherReads
  rw [found] at otherFound
  cases otherFound
  rw [decodes] at otherDecodes
  cases otherDecodes
  rfl

/-- The bytes of the module that settings ask for, from the content of a schema and the template as
a run leaves it. -/
def IsModuleOf
    (surroundings : Surroundings)
    (output : Path)
    (settings : Settings)
    (later : Files.Tree)
    (content module : List UInt8) : Prop :=
  ∃ template blocks,
    Reads later (templatePlace surroundings output settings) template ∧
      Methods.blocksOf (namingPlan settings) (tablesOfSchema settings content) = .ok blocks ∧
      module = Text.encode (finish settings (moduleText settings template blocks)).1

/-- A schema and a template have one module. -/
theorem IsModuleOf.unique
    {surroundings : Surroundings}
    {output : Path}
    {settings : Settings}
    {later : Files.Tree}
    {content module other : List UInt8}
    (isModule : IsModuleOf surroundings output settings later content module)
    (otherIsModule : IsModuleOf surroundings output settings later content other) :
    other = module := by
  obtain ⟨template, blocks, reads, made, rfl⟩ := isModule
  obtain ⟨otherTemplate, otherBlocks, otherReads, otherMade, rfl⟩ := otherIsModule
  rw [made] at otherMade
  cases otherMade
  rw [reads.unique otherReads]

section Stages

variable {surroundings : Surroundings}
variable {schema output : Path}
variable {settings : Settings}
variable {tree prepared : Files.Tree}
variable {content : List UInt8}
variable {blocks : List MethodBlock}
variable {template : String}
variable {generated : Generated}
variable {final : State}

/-- The template that a generation has read is there when it is over. -/
theorem Stages.templateReadLater
    (stages :
      Stages surroundings schema output settings tree prepared content blocks template
        generated final) :
    Reads final.tree (templatePlace surroundings output settings) template := by
  obtain ⟨bytes, decoded, found, decodes, isText⟩ := stages.templateRead
  exact ⟨bytes, decoded, stages.get?_keeps stages.apart found, decodes, isText⟩

/-- A schema that was there before a generation is the one that it has read. -/
theorem Stages.content_eq
    (stages :
      Stages surroundings schema output settings tree prepared content blocks template
        generated final)
    {present : List UInt8}
    (found : tree.get? (schemaPlace surroundings schema) = some (.file present)) :
    content = present := by
  have stays := stages.added.extended.keeps found
  rw [stages.schemaFound] at stays
  cases stays
  rfl

/-- What is in the place of the output after a generation is the module of its schema. -/
theorem Stages.exists_isModuleOf
    (stages :
      Stages surroundings schema output settings tree prepared content blocks template
        generated final) :
    ∃ module,
      IsModuleOf surroundings output settings final.tree content module ∧
        final.tree.get? (outputPlace surroundings output) = some (.file module) :=
  ⟨_, ⟨template, blocks, stages.templateReadLater, stages.blocksMade, rfl⟩, stages.get?_output⟩

end Stages

/-- A schema has the same bytes after a generation as before, whether that succeeds or fails, exactly
when the output has another place, or the generation fails, or its module has these bytes too. -/
theorem generate_keeps_schema_iff
    {surroundings : Surroundings}
    {tree : Files.Tree}
    {settings : Settings}
    {content : List UInt8}
    {result : Except Failure Generated}
    {final : State}
    (plain : surroundings.workingDirectory.IsPlain)
    (sound : tree.IsSound)
    (validated : settings.IsValidated)
    (schema output : Path)
    (present : tree.get? (schemaPlace surroundings schema) = some (.file content))
    (performed :
      perform (generate schema output settings) surroundings tree = (result, final)) :
    final.tree.get? (schemaPlace surroundings schema) = some (.file content) ↔
      schemaPlace surroundings schema ≠ outputPlace surroundings output ∨
        (∃ failure, result = .error failure) ∨
        IsModuleOf surroundings output settings final.tree content content := by
  rw [perform_eq_outcome] at performed
  have ends : Ends surroundings ⟨tree, []⟩ (generate schema output settings) _ _ :=
    generate_ends plain sound validated schema output
  cases result with
  | error failure =>
      have stays := (ends.of_error performed).extended.keeps present
      exact iff_of_true stays (Or.inr (Or.inl ⟨failure, rfl⟩))
  | ok generated =>
      obtain ⟨prepared, read, blocks, template, stages⟩ := ends.of_ok performed
      obtain rfl := stages.content_eq present
      by_cases samePlace :
          schemaPlace surroundings schema = outputPlace surroundings output
      · obtain ⟨module, isModule, written⟩ := stages.exists_isModuleOf
        rw [samePlace, written]
        constructor
        · intro same
          cases same
          exact Or.inr (Or.inr isModule)
        · rintro (elsewhere | ⟨failure, fails⟩ | schemaIsModule)
          · exact (elsewhere rfl).elim
          · cases fails
          · rw [isModule.unique schemaIsModule]
      · have stays := stages.get?_keeps samePlace stages.schemaFound
        exact iff_of_true stays (Or.inl samePlace)

/-- Beside its output a schema with a table stays as it is. -/
theorem generate_keeps_schema_iff_of_one_table :
    (treeWithSchema "type D={Tables:{a:{}}}").get?
        (schemaPlace ⟨["w"], .works⟩ (.ofText "s.ts")) =
      some (.file (Text.encode "type D={Tables:{a:{}}}")) ∧
    ∃ generated final,
      generateBeside "api.py" "type D={Tables:{a:{}}}" = (.ok generated, final) ∧
        (final.tree.get? (schemaPlace ⟨["w"], .works⟩ (.ofText "s.ts")) =
            some (.file (Text.encode "type D={Tables:{a:{}}}")) ↔
          schemaPlace ⟨["w"], .works⟩ (.ofText "s.ts") ≠
              outputPlace ⟨["w"], .works⟩ (.ofText "api.py") ∨
            (∃ failure : Failure, Except.ok generated = .error failure) ∨
            IsModuleOf ⟨["w"], .works⟩ (.ofText "api.py") .standard final.tree
              (Text.encode "type D={Tables:{a:{}}}")
              (Text.encode "type D={Tables:{a:{}}}")) := by
  have present :
      (treeWithSchema "type D={Tables:{a:{}}}").get?
          (schemaPlace ⟨["w"], .works⟩ (.ofText "s.ts")) =
        some (.file (Text.encode "type D={Tables:{a:{}}}")) := by
    decide +kernel
  obtain ⟨generated, succeeds⟩ :=
    exists_of_isOk (generateBeside "api.py" "type D={Tables:{a:{}}}") (by decide +kernel)
  exact ⟨present, generated, _, succeeds,
    generate_keeps_schema_iff (by decide) (by decide) Settings.standard_isValidated
      (.ofText "s.ts") (.ofText "api.py") present succeeds⟩

/-- A schema that is its own output is lost, though the generation succeeds: a schema without tables
gives way to a template without its marker. -/
theorem generate_onto_schema_loses_schema :
    schemaPlace ⟨["w"], .works⟩ (.ofText "s.ts") = ["w", "s.ts"] ∧
      (treeWithSchema "type D={}").get? ["w", "s.ts"] =
        some (.file (Text.encode "type D={}")) ∧
      (generateBeside "s.ts" "type D={}").1.isOk = true ∧
      (generateBeside "s.ts" "type D={}").2.tree.get? ["w", "s.ts"] =
        some (.file (Text.encode "")) ∧
      Text.encode "" ≠ Text.encode "type D={}" := by
  refine ⟨?_, ?_, ?_, ?_, ?_⟩ <;> decide +kernel

end Tablewright.Run
