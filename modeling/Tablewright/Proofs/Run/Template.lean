import Tablewright.Proofs.Files.Growth
import Tablewright.Proofs.Run.Outcome
import Tablewright.Run.Template

/-!
# Making sure of a template and reading it

A template is written only where nothing is, so a run adds the template and directories on the way
to it, and changes nothing that is there. Reading a template changes nothing at all.
-/

namespace Tablewright.Run

open Files (Entry Path Place)

/-- The base template as a file. -/
def baseFile
    (className placeholder : String) : Entry :=
  .file (Text.encode (Template.base className placeholder))

/-- What a run may add for a template in a directory: directories on the way to it, and the base
template itself. -/
def IsTemplateAddition
    (directory : Place)
    (filename className placeholder : String)
    (place : Place)
    (entry : Entry) : Prop :=
  Files.Tree.IsWayTo directory place entry ∨
    (place = directory ++ [filename] ∧ entry = baseFile className placeholder)

/-- Directories on the way to a template may be added for it. -/
private theorem grows_of_directories
    {tree later : Files.Tree}
    {directory : Place}
    {filename className placeholder : String}
    (grows : tree.Grows later (Files.Tree.IsWayTo directory)) :
    tree.Grows later (IsTemplateAddition directory filename className placeholder) :=
  grows.mono fun _ _ isWay => Or.inl isWay

/-- The place in a directory is not on the way to the directory. -/
theorem not_leading_append_singleton
    (directory : Place)
    (name : String) :
    ¬ directory ++ [name] <+: directory := by
  intro leading
  have shorter := leading.length_le
  simp only [List.length_append, List.length_singleton] at shorter
  omega

/-- A template that is written after directories were made for it is new. -/
private theorem grows_of_writeFile
    {tree made written : Files.Tree}
    {workingDirectory directory : Place}
    {filename className placeholder : String}
    (plain : directory.IsPlain)
    (named : filename ≠ "..")
    (absent : tree.get? (directory ++ [filename]) = none)
    (making : tree.Grows made (Files.Tree.IsWayTo directory))
    (writes :
      made.writeFile workingDirectory (.ofPlace (directory ++ [filename]))
        (Text.encode (Template.base className placeholder)) = .ok written) :
    tree.Grows written (IsTemplateAddition directory filename className placeholder) ∧
      written.get? (directory ++ [filename]) = some (baseFile className placeholder) := by
  obtain ⟨leads, noDirectory, rfl⟩ :=
    (Files.Tree.writeFile_eq_ok_iff (plain.append_singleton named)).mp writes
  have absentStill : made.get? (directory ++ [filename]) = none := by
    rcases making.extended (directory ++ [filename]) with same | ⟨-, entry, -, leading, -⟩
    · rw [same]
      exact absent
    · exact (not_leading_append_singleton directory filename leading).elim
  constructor
  · exact (grows_of_directories making).trans
      (Files.Tree.Grows.set making.sound leads absentStill (Or.inr ⟨rfl, rfl⟩))
  · exact made.get?_set_same
      (Files.Tree.ne_nil_of_get?_ne_directory noDirectory) _

/-- A template is kept where something is, and otherwise the base template is written there. -/
theorem ensureTemplate_ends
    {surroundings : Surroundings}
    {state : State}
    {directory : Place}
    (plain : directory.IsPlain)
    (sound : state.tree.IsSound)
    (filename className placeholder : String) :
    Ends surroundings state
      (ensureTemplate (.ofPlace (directory ++ [filename])) className placeholder)
      (fun created final =>
        state.tree.Grows final.tree
            (IsTemplateAddition directory filename className placeholder) ∧
          (created = true →
            state.tree.get? (directory ++ [filename]) = none ∧
              final.tree.get? (directory ++ [filename]) =
                some (baseFile className placeholder)) ∧
          (created = false → final.tree = state.tree))
      (fun _ final =>
        state.tree.Grows final.tree
          (IsTemplateAddition directory filename className placeholder)) := by
  have untouched :
      state.tree.Grows state.tree
        (IsTemplateAddition directory filename className placeholder) :=
    Files.Tree.Grows.refl sound _
  unfold ensureTemplate
  refine Ends.exists?_bind ?_ (fun _ _ => untouched)
  intro found? seen
  cases found? with
  | some entry =>
      refine Ends.log_bind fun logged same => Ends.pure ⟨?_, ?_, fun _ => same⟩
      · rw [same]
        exact untouched
      · intro impossible
        cases impossible
  | none =>
      have made :
          Ends surroundings state
            (ensureDirectories (.ofPlace directory)
              (reportOfFile .template "Could not write template"
                (.ofPlace (directory ++ [filename]))))
            (fun _ final =>
              state.tree.Grows final.tree (Files.Tree.IsWayTo directory))
            (fun _ final =>
              state.tree.Grows final.tree
                (IsTemplateAddition directory filename className placeholder)) :=
        Ends.ensureDirectories
          (fun _ makes => Files.Tree.ensureDirectories_grows sound plain makes)
          (fun _ _ makes => grows_of_directories
            (Files.Tree.ensureDirectories_grows sound plain makes))
      have parentShape :
          (Path.ofPlace (directory ++ [filename])).parent = .ofPlace directory := by
        simp [Path.parent, Path.ofPlace]
      simp only [Option.isSome_none, Bool.false_eq_true, if_false, parentShape]
      refine made.bind ?_
      intro _ between making
      refine Ends.change_bind ?_ (fun _ _ => grows_of_directories making)
      intro written writes
      by_cases named : filename = ".."
      · subst filename
        exact (between.tree.writeFile_dots_ne_ok written _ plain _ writes).elim
      · have absent := sound.get?_of_unseen (plain.append_singleton named) seen
        obtain ⟨grows, found⟩ :=
          grows_of_writeFile plain named absent making writes
        refine Ends.log_bind fun logged same => Ends.pure ?_
        rw [same]
        refine ⟨grows, fun _ => ⟨absent, found⟩, ?_⟩
        intro impossible
        cases impossible

/-- What a run reads in the file that a path leads to: its text, with line ends unified. -/
def Reads
    (tree : Files.Tree)
    (place : Place)
    (text : String) : Prop :=
  ∃ content decoded,
    tree.get? place = some (.file content) ∧
      Text.decode content = .ok decoded ∧
      text = String.ofList (Text.unifyLineEnds decoded.toList)

/-- Reading a template gives its text and leaves the tree alone. -/
theorem readTemplate_ends
    {surroundings : Surroundings}
    {state : State}
    {directory : Place}
    (plain : directory.IsPlain)
    (filename placeholder : String) :
    Ends surroundings state
      (readTemplate (.ofPlace (directory ++ [filename])) placeholder)
      (fun text final =>
        final.tree = state.tree ∧
          filename ≠ ".." ∧
          Reads state.tree (directory ++ [filename]) text)
      (fun _ final => final.tree = state.tree) := by
  have read :
      Ends surroundings state
        (readText (.ofPlace (directory ++ [filename]))
          (reportOfFile .template "Could not read template"
            (.ofPlace (directory ++ [filename]))))
        (fun text final =>
          final.tree = state.tree ∧
            filename ≠ ".." ∧
            Reads state.tree (directory ++ [filename]) text)
        (fun _ final => final.tree = state.tree) := by
    unfold readText
    refine Ends.ask_bind ?_ (fun _ _ => rfl)
    intro content reads
    by_cases named : filename = ".."
    · subst filename
      exact (state.tree.readFile_dots_ne_ok _ plain _ reads).elim
    · obtain ⟨-, found⟩ :=
        (Files.Tree.readFile_eq_ok_iff (plain.append_singleton named)).mp reads
      split
      · next decoded decodes =>
          exact Ends.pure ⟨rfl, named, content, decoded, found, decodes, rfl⟩
      · exact Ends.throw rfl
  unfold readTemplate
  refine read.bind ?_
  rintro text between ⟨same, named, reads⟩
  refine Ends.log_bind fun logged loggedSame => ?_
  exact Ends.pure ⟨loggedSame.trans same, named, reads⟩

end Tablewright.Run
