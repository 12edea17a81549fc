import Tablewright.Proofs.Run.Generation

/-!
# Failing generations

Whatever goes wrong in a generation, what was there before is there afterwards, and all that is new
is the template and the directories on the way to the output.
-/

namespace Tablewright.Run

open Files (Entry Path Place)

/-- The tree has what the earlier one has, and otherwise only the base template beside an output
and directories on the way to that output. -/
def IsUndamaged
    (surroundings : Surroundings)
    (output : Path)
    (settings : Settings)
    (tree later : Files.Tree) : Prop :=
  (∀ place entry, tree.get? place = some entry → later.get? place = some entry) ∧
    ∀ place entry,
      tree.get? place = none →
      later.get? place = some entry →
      (place = templatePlace surroundings output settings ∧
          entry = .file
            (Text.encode (Template.base settings.className settings.placeholder))) ∨
        (place <+: outputDirectory surroundings output ∧ entry = .directory)

/-- A generation that fails, for whatever reason and whatever becomes of files that are to be
removed, damages nothing. -/
theorem generate_error_undamaged
    {surroundings : Surroundings}
    {tree : Files.Tree}
    {settings : Settings}
    {failure : Failure}
    {final : State}
    (plain : surroundings.workingDirectory.IsPlain)
    (sound : tree.IsSound)
    (validated : settings.IsValidated)
    (schema output : Path)
    (fails :
      perform (generate schema output settings) surroundings tree = (.error failure, final)) :
    IsUndamaged surroundings output settings tree final.tree := by
  rw [perform_eq_outcome] at fails
  have added := (generate_ends plain sound validated schema output).of_error fails
  refine ⟨fun place entry found => added.extended.keeps found, ?_⟩
  intro place entry absent found
  rcases added.extended.allows absent found with
    ⟨leading, isDirectory⟩ | ⟨isTemplate, isBase⟩
  · exact Or.inr ⟨leading, isDirectory⟩
  · exact Or.inl ⟨isTemplate, isBase⟩

/-- Without a schema a generation adds its template and fails, and the old output is still there. -/
theorem generate_error_undamaged_without_schema :
    IsUndamaged ⟨["w"], .works⟩ (.ofText "api.py") .standard
      ⟨[(["w"], .directory), (["w", "api.py"], .file [35])]⟩
      (perform (generate (.ofText "schema.ts") (.ofText "api.py") .standard)
        ⟨["w"], .works⟩ ⟨[(["w"], .directory), (["w", "api.py"], .file [35])]⟩).2.tree :=
  generate_error_undamaged (by decide) (by decide) Settings.standard_isValidated
    (.ofText "schema.ts") (.ofText "api.py") rfl

end Tablewright.Run
