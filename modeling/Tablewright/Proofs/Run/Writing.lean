import Tablewright.Proofs.Methods.Catalogue
import Tablewright.Proofs.Run.Generation
import Tablewright.Proofs.Text.Occurrence
import Tablewright.Proofs.Text.Utf8

/-!
# What a successful generation writes

An output that is not laid out is its template with the blocks of the selected tables at the first
marker. Nothing else is new, apart from the template itself and directories on the way to it, and
what was in the place of the output before does not matter.
-/

namespace Tablewright.Run

open Files (Entry Path Place)
open Methods (MethodBlock)

section Stages

variable {surroundings : Surroundings}
variable {schema output : Path}
variable {settings : Settings}
variable {tree prepared : Files.Tree}
variable {content : List UInt8}
variable {blocks : List MethodBlock}
variable {template : String}
variable {generated : Generated}
variable {final : State}

/-- What is elsewhere than the output after the template has been made sure of stays. -/
theorem Stages.get?_keeps
    (stages :
      Stages surroundings schema output settings tree prepared content blocks template
        generated final)
    {place : Place}
    {entry : Entry}
    (elsewhere : place ≠ outputPlace surroundings output)
    (found : prepared.get? place = some entry) :
    final.tree.get? place = some entry := by
  apply stages.written.grows.extended.keeps
  rw [Files.Tree.get?_set_other _ elsewhere]
  exact found

/-- The output holds the finished module. -/
theorem Stages.get?_output
    (stages :
      Stages surroundings schema output settings tree prepared content blocks template
        generated final) :
    final.tree.get? (outputPlace surroundings output) =
      some (.file (Text.encode (finish settings (moduleText settings template blocks)).1)) := by
  obtain ⟨grows, noDirectory⟩ := stages.written
  apply grows.extended.keeps
  exact prepared.get?_set_same (Files.Tree.ne_nil_of_get?_ne_directory noDirectory) _

end Stages

/-- A run that is seen to have a value has one. -/
theorem exists_of_isOk
    (result : Except Failure Generated × State)
    (isOk : result.1.isOk = true) :
    ∃ generated, result = (.ok generated, result.2) := by
  rcases result with ⟨(failure | generated), final⟩
  · cases isOk
  · exact ⟨generated, rfl⟩

/-- A directory `w` with a template that is a marker only, and a schema. -/
def treeWithSchema
    (text : String) : Files.Tree :=
  ⟨[(["w"], .directory),
    (["w", "supabase_api_template.py"], .file (Text.encode "# [TABLE_METHODS]")),
    (["w", "s.ts"], .file (Text.encode text))]⟩

/-- A generation in this directory that sets no option. -/
def generateBeside
    (output text : String) : Except Failure Generated × State :=
  perform (generate (.ofText "s.ts") (.ofText output) .standard) ⟨["w"], .works⟩
    (treeWithSchema text)

end Tablewright.Run
