import Mathlib.Data.List.Basic
import Tablewright.Proofs.Run.Generation

/-!
# Histories of generations

Generations follow one another on one tree, each from its own working directory, with its own
schema, output and settings. Once there is a file with the name that all of them give to templates,
none of them changes it: an output never has that name, and a template is written only where nothing
is.
-/

namespace Tablewright.Run

open Files (Entry Path Place)

/-- A generation that is asked for. -/
structure Request where
  surroundings : Surroundings
  schema : Path
  output : Path
  settings : Settings

namespace Request

/-- The tree after a generation, whether it succeeds or not. -/
def treeAfter
    (request : Request)
    (tree : Files.Tree) : Files.Tree :=
  (perform (generate request.schema request.output request.settings)
    request.surroundings tree).2.tree

/-- The generation runs in a plain working directory, and its settings are validated and name the
template `filename`. -/
structure IsFor
    (filename : String)
    (request : Request) : Prop where
  plain : request.surroundings.workingDirectory.IsPlain
  validated : request.settings.IsValidated
  named : request.settings.templateFilename = filename

end Request

/-- The tree after generations, one after another. -/
def treeAfter
    (requests : List Request)
    (tree : Files.Tree) : Files.Tree :=
  requests.foldl (fun current request => request.treeAfter current) tree

/-- An output that is not where its template is has another name. -/
theorem outputPlace_getLast?_ne
    {surroundings : Surroundings}
    {output : Path}
    {settings : Settings}
    (apart :
      templatePlace surroundings output settings ≠ outputPlace surroundings output) :
    (outputPlace surroundings output).getLast? ≠ some settings.templateFilename := by
  intro lastIsTemplate
  apply apart
  exact List.dropLast_append_getLast? _ lastIsTemplate

/-- What has the name of a template stays what it is, in a tree that is sound. -/
structure KeepsTemplates
    (filename : String)
    (tree later : Files.Tree) : Prop where
  keeps :
    ∀ place entry,
      place.getLast? = some filename →
      tree.get? place = some entry →
      later.get? place = some entry
  sound : later.IsSound

/-- What is kept twice is kept. -/
theorem KeepsTemplates.trans
    {filename : String}
    {tree between later : Files.Tree}
    (first : KeepsTemplates filename tree between)
    (second : KeepsTemplates filename between later) :
    KeepsTemplates filename tree later where
  keeps place entry isTemplate found :=
    second.keeps place entry isTemplate (first.keeps place entry isTemplate found)
  sound := second.sound

/-- A successful generation keeps what has the name of its template. -/
theorem Stages.keepsTemplates
    {surroundings : Surroundings}
    {schema output : Path}
    {settings : Settings}
    {tree prepared : Files.Tree}
    {content : List UInt8}
    {blocks : List Methods.MethodBlock}
    {template : String}
    {generated : Generated}
    {final : State}
    (stages :
      Stages surroundings schema output settings tree prepared content blocks template
        generated final) :
    KeepsTemplates settings.templateFilename tree final.tree where
  keeps place entry isTemplate found := by
    have foundPrepared := stages.added.extended.keeps found
    have elsewhere : place ≠ outputPlace surroundings output := by
      intro isOutput
      apply outputPlace_getLast?_ne stages.apart
      rw [← isOutput]
      exact isTemplate
    apply stages.written.grows.extended.keeps
    rw [Files.Tree.get?_set_other _ elsewhere]
    exact foundPrepared
  sound := stages.written.grows.sound

/-- A generation keeps what has the name of its template, whether it succeeds or not. -/
theorem Request.IsFor.keepsTemplates
    {filename : String}
    {request : Request}
    {tree : Files.Tree}
    (isFor : request.IsFor filename)
    (sound : tree.IsSound) :
    KeepsTemplates filename tree (request.treeAfter tree) := by
  obtain ⟨plain, validated, rfl⟩ := isFor
  have ends :
      Ends request.surroundings ⟨tree, []⟩
        (generate request.schema request.output request.settings)
        (fun _ final =>
          KeepsTemplates request.settings.templateFilename tree final.tree)
        (fun _ final =>
          KeepsTemplates request.settings.templateFilename tree final.tree) := by
    refine (generate_ends plain sound validated request.schema request.output).weaken ?_ ?_
    · rintro generated final ⟨prepared, content, blocks, template, stages⟩
      exact stages.keepsTemplates
    · intro failure final added
      exact ⟨fun place entry _ found => added.extended.keeps found, added.sound⟩
  exact ends.final

/-- Generations one after another keep what has the name of their templates. -/
theorem keepsTemplates_treeAfter
    {filename : String}
    {requests : List Request}
    {tree : Files.Tree}
    (allFor : ∀ request ∈ requests, request.IsFor filename)
    (sound : tree.IsSound) :
    KeepsTemplates filename tree (treeAfter requests tree) := by
  induction requests generalizing tree with
  | nil =>
      exact ⟨fun _ _ _ found => found, sound⟩
  | cons request rest inductionHypothesis =>
      have first := (allFor request List.mem_cons_self).keepsTemplates sound
      have others : ∀ other ∈ rest, other.IsFor filename :=
        fun other member => allFor other (List.mem_cons_of_mem request member)
      exact first.trans (inductionHypothesis others first.sound)

/-- In a history of generations that all give the same name to templates, a file with that name
that is there after some of them is there with the same content after all of them. -/
theorem template_survives_history
    {filename : String}
    {earlier later : List Request}
    {tree : Files.Tree}
    {place : Place}
    {content : List UInt8}
    (sound : tree.IsSound)
    (allFor : ∀ request ∈ earlier ++ later, request.IsFor filename)
    (isTemplate : place.getLast? = some filename)
    (found : (treeAfter earlier tree).get? place = some (.file content)) :
    (treeAfter (earlier ++ later) tree).get? place = some (.file content) := by
  have before : KeepsTemplates filename tree (treeAfter earlier tree) :=
    keepsTemplates_treeAfter
      (fun request member => allFor request (List.mem_append_left later member)) sound
  have after :
      KeepsTemplates filename (treeAfter earlier tree)
        (treeAfter later (treeAfter earlier tree)) :=
    keepsTemplates_treeAfter
      (fun request member => allFor request (List.mem_append_right earlier member))
      before.sound
  have together :
      treeAfter (earlier ++ later) tree = treeAfter later (treeAfter earlier tree) :=
    List.foldl_append
  rw [together]
  exact after.keeps place (.file content) isTemplate found

/-- A request from the directory `w` that sets no option. -/
def Request.plainly
    (schema output : String) : Request :=
  ⟨⟨["w"], .works⟩, .ofText schema, .ofText output, .standard⟩

private theorem Request.plainly_isFor
    (schema output : String) :
    (Request.plainly schema output).IsFor "supabase_api_template.py" where
  plain := (by decide : Place.IsPlain ["w"])
  validated := Settings.standard_isValidated
  named := rfl

/-- The template that a generation without a schema writes outlives one with a schema, one that is
to put its output in the place of the template, and one in a directory of its own. -/
theorem template_survives_history_of_four :
    (treeAfter
        ([.plainly "none.ts" "api.py"] ++
          [.plainly "s.ts" "api.py", .plainly "s.ts" "supabase_api_template.py",
            .plainly "s.ts" "sub/api.py"])
        ⟨[(["w"], .directory), (["w", "s.ts"], .file [])]⟩).get?
      ["w", "supabase_api_template.py"] =
      some (.file (Text.encode
        (Template.base Settings.standard.className Settings.standard.placeholder))) :=
  template_survives_history (by decide)
    (by simp [Request.plainly_isFor]) rfl rfl

end Tablewright.Run
