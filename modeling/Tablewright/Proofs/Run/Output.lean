import Tablewright.Proofs.Files.Growth
import Tablewright.Proofs.Run.Outcome
import Tablewright.Run.Output

/-!
# Writing an output

An output that is written takes the place of what was there, and only directories on the way to it
are added. When it cannot be written, the old output is still there: it is removed only where a new
one can be written.
-/

namespace Tablewright.Run

open Files (Entry Path Place)

/-- What removing a file may do to a tree: nothing, or clear the place of a file. -/
def Clears
    (tree later : Files.Tree)
    (place : Place) : Prop :=
  later = tree ∨
    (tree.LeadsTo place ∧
      (∃ content, tree.get? place = some (.file content)) ∧
      later = tree.erase place)

namespace Clears

/-- A tree leads to a place as long as the file there is merely cleared. -/
theorem leadsTo
    {tree later : Files.Tree}
    {place : Place}
    (clears : Clears tree later place)
    (leads : tree.LeadsTo place) :
    later.LeadsTo place := by
  rcases clears with rfl | ⟨-, -, rfl⟩
  · exact leads
  · exact leads.erase

/-- Clearing the place of a file keeps a tree sound. -/
theorem sound
    {tree later : Files.Tree}
    {place : Place}
    (clears : Clears tree later place)
    (sound : tree.IsSound) :
    later.IsSound := by
  rcases clears with rfl | ⟨-, ⟨content, found⟩, rfl⟩
  · exact sound
  · exact sound.erase (by simp [found])

/-- Clearing a place leaves the other places alone. -/
theorem get?_other
    {tree later : Files.Tree}
    {place other : Place}
    (clears : Clears tree later place)
    (different : other ≠ place) :
    later.get? other = tree.get? other := by
  rcases clears with rfl | ⟨-, -, rfl⟩
  · rfl
  · exact tree.get?_erase_other different

end Clears

/-- Removing a file never fails outright; what goes wrong is told. -/
theorem unlink_ends
    {surroundings : Surroundings}
    {place : Place}
    (plain : place.IsPlain)
    (state : State) :
    Ends surroundings state (unlink (.ofPlace place))
      (fun _ final => Clears state.tree final.tree place)
      (fun _ _ => False) := by
  unfold unlink
  refine Ends.read ?_
  split
  · refine Ends.get (Ends.read ?_)
    split
    · next removed removes =>
        obtain ⟨leads, found, rfl⟩ :=
          (Files.Tree.removeFile_eq_ok_iff plain).mp removes
        exact Ends.set (Ends.pure (Or.inr ⟨leads, found, rfl⟩))
    · exact Ends.pure (Or.inl rfl)
  · exact Ends.pure (Or.inl rfl)
  · exact Ends.pure (Or.inl rfl)

/-- Waiting ends without a failure where the tree leads to the file. -/
theorem waitForRemoval_ends
    {surroundings : Surroundings}
    {state : State}
    {place : Place}
    {failing : Failure → State → Prop}
    (plain : place.IsPlain)
    (leads : state.tree.LeadsTo place) :
    Ends surroundings state (waitForRemoval (.ofPlace place))
      (fun _ final => state = final)
      failing := by
  unfold waitForRemoval
  refine Ends.exists?_bind (fun _ _ => Ends.pure rfl) ?_
  intro reason unasked
  rw [Files.Tree.status?_of_leadsTo plain leads] at unasked
  cases unasked

/-- Removing an old output clears its place or leaves the tree alone. -/
theorem removeOutput_ends
    {surroundings : Surroundings}
    {place : Place}
    (plain : place.IsPlain)
    (timeout : Value)
    (state : State) :
    Ends surroundings state (removeOutput (.ofPlace place) timeout)
      (fun _ final => Clears state.tree final.tree place)
      (fun _ final => final.tree = state.tree) := by
  unfold removeOutput
  refine Ends.exists?_bind ?_ (fun _ _ => rfl)
  intro found? seen
  cases found? with
  | none =>
      exact Ends.pure (Or.inl rfl)
  | some entry =>
      obtain ⟨leads, -⟩ := Files.Tree.leadsTo_of_status? plain seen
      refine Ends.bind
        ((unlink_ends plain state).weaken
          (fun _ _ clears => clears) (fun _ _ never => never.elim)) ?_
      intro failure? between clears
      split
      · exact Ends.log clears
      · refine Ends.bind
          (waitForRemoval_ends plain (clears.leadsTo leads)) ?_
        rintro gone _ rfl
        split
        · exact Ends.log clears
        · exact Ends.log clears

/-- Writing where a file was cleared, or where nothing has changed, fails only in the second. -/
theorem Clears.eq_of_writeFile_error
    {tree later : Files.Tree}
    {workingDirectory place : Place}
    {content : List UInt8}
    {reason : Files.Failure}
    (plain : place.IsPlain)
    (clears : Clears tree later place)
    (refused :
      later.writeFile workingDirectory (.ofPlace place) content = .error reason) :
    later = tree := by
  rcases clears with same | ⟨leads, ⟨old, found⟩, rfl⟩
  · exact same
  · have noDirectory : tree.get? place ≠ some .directory := by
      simp [found]
    have below := Files.Tree.ne_nil_of_get?_ne_directory noDirectory
    have written :
        (tree.erase place).writeFile workingDirectory (.ofPlace place) content =
          .ok ((tree.erase place).set place (.file content)) :=
      (Files.Tree.writeFile_eq_ok_iff plain).mpr
        ⟨leads.erase, by simp [tree.get?_erase_same below], rfl⟩
    rw [written] at refused
    cases refused

/-- A file that is written where another was cleared takes its place and changes nothing else. -/
theorem Clears.extends_of_writeFile
    {tree middle later written : Files.Tree}
    {workingDirectory place : Place}
    {content : List UInt8}
    {allowed : Place → Entry → Prop}
    (plain : place.IsPlain)
    (extended : tree.Extends middle allowed)
    (clears : Clears middle later place)
    (writes :
      later.writeFile workingDirectory (.ofPlace place) content = .ok written) :
    (tree.set place (.file content)).Extends written allowed := by
  obtain ⟨-, noDirectory, rfl⟩ := (Files.Tree.writeFile_eq_ok_iff plain).mp writes
  have below := Files.Tree.ne_nil_of_get?_ne_directory noDirectory
  intro other
  by_cases isPlace : other = place
  · subst other
    left
    rw [later.get?_set_same below, tree.get?_set_same below]
  · rw [later.get?_set_other isPlace, tree.get?_set_other isPlace,
      clears.get?_other isPlace]
    exact extended other

/-- What a written output leaves behind: its file, and directories on the way to it. -/
structure Written
    (tree : Files.Tree)
    (place : Place)
    (content : String)
    (later : Files.Tree) : Prop where
  grows :
    (tree.set place (.file (Text.encode content))).Grows later
      (Files.Tree.IsWayTo place.dropLast)
  noDirectory : tree.get? place ≠ some .directory

/-- Once there is a directory for it, an output is written in place of the old one, or the old one
is still there. -/
private theorem replaceOutput_ends
    {surroundings : Surroundings}
    {tree : Files.Tree}
    {state : State}
    {place : Place}
    (plain : place.IsPlain)
    (grows : tree.Grows state.tree (Files.Tree.IsWayTo place.dropLast))
    (content : String)
    (timeout : Value) :
    Ends surroundings state
      (removeOutput (.ofPlace place) timeout >>= fun _ =>
        change (·.writeFile · (.ofPlace place) (Text.encode content))
          (reportOfFile .output "Could not write output file" (.ofPlace place)))
      (fun _ final => Written tree place content final.tree)
      (fun _ final => tree.Grows final.tree (Files.Tree.IsWayTo place.dropLast)) := by
  refine Ends.bind
    ((removeOutput_ends plain timeout state).weaken
      (fun _ _ clears => clears) ?_) ?_
  · intro failure final same
    rw [same]
    exact grows
  · intro _ cleared clears
    refine Ends.change ?_ ?_
    · intro written writes
      obtain ⟨leads, noDirectory, shape⟩ :=
        (Files.Tree.writeFile_eq_ok_iff plain).mp writes
      have absentOrFile : tree.get? place ≠ some .directory := by
        intro isDirectory
        have stays := grows.extended.keeps isDirectory
        rcases clears with same | ⟨-, ⟨old, found⟩, -⟩
        · rw [same] at noDirectory
          exact noDirectory stays
        · rw [stays] at found
          cases found
      refine ⟨⟨clears.extends_of_writeFile plain grows.extended writes, ?_⟩, absentOrFile⟩
      subst written
      exact (clears.sound grows.sound).set leads
        (fun isDirectory => (noDirectory isDirectory).elim)
    · intro reason refused
      rw [clears.eq_of_writeFile_error plain refused]
      exact grows

/-- An output that is written takes the place of the old one, and only missing directories on the
way to it are added. One that cannot be written leaves everything as it was, apart from such
directories. -/
theorem writeOutput_ends
    {surroundings : Surroundings}
    {state : State}
    {place : Place}
    (plain : place.IsPlain)
    (sound : state.tree.IsSound)
    (content : String)
    (timeout : Value) :
    Ends surroundings state (writeOutput (.ofPlace place) content timeout)
      (fun _ final => Written state.tree place content final.tree)
      (fun _ final =>
        state.tree.Grows final.tree (Files.Tree.IsWayTo place.dropLast)) := by
  have untouched :
      state.tree.Grows state.tree (Files.Tree.IsWayTo place.dropLast) :=
    Files.Tree.Grows.refl sound _
  unfold writeOutput
  refine Ends.exists?_bind ?_ (fun _ _ => untouched)
  intro found? seen
  dsimp only
  split
  · have made :
        Ends surroundings state
          (ensureDirectories (.ofPlace place.dropLast)
            (reportOfFile .output "Could not create output directory" (.ofPlace place)))
          (fun _ final =>
            state.tree.Grows final.tree (Files.Tree.IsWayTo place.dropLast))
          (fun _ final =>
            state.tree.Grows final.tree (Files.Tree.IsWayTo place.dropLast)) :=
      Ends.ensureDirectories
        (fun _ makes => Files.Tree.ensureDirectories_grows sound plain.dropLast makes)
        (fun _ _ makes => Files.Tree.ensureDirectories_grows sound plain.dropLast makes)
    refine made.bind ?_
    intro _ between grows
    refine Ends.log_bind ?_
    intro logged same
    rw [← same] at grows
    exact replaceOutput_ends plain grows content timeout
  · exact replaceOutput_ends plain untouched content timeout

end Tablewright.Run
