import Tablewright.Proofs.Files.Faults
import Tablewright.Proofs.Run.Regeneration

/-!
# Outputs that are replaced or reported

Along any path, an output that is written takes the place of the old one and changes no other file,
and one that cannot be written leaves all that was there. Each failure is reported as one of the
output, but for those of the looks at the output and its directory, which nothing catches, and those
that no system is asked about.
-/

namespace Tablewright.Run

open Files (Entry Path Place)

/-! ## Failures that are reported -/

/-- A report of a kind on the file or table that it is about. -/
def Failure.IsReportOn
    (failure : Failure)
    (kind : ReportKind)
    (place : String) : Prop :=
  ∃ message suggestions,
    failure = .report (Report.make kind message (some place) [] suggestions)

/-- A failure that is reported where something holds, and is no report at all elsewhere. -/
structure Failure.IsReportedIff
    (failure : Failure)
    (kind : ReportKind)
    (place : String)
    (holds : Prop) : Prop where
  reported : holds → failure.IsReportOn kind place
  unreported : ¬ holds → ∀ told, failure ≠ .report told

namespace Failure.IsReportedIff

variable {failure : Failure}
variable {kind : ReportKind}
variable {place : String}
variable {holds : Prop}

theorem congr
    {also : Prop}
    (told : failure.IsReportedIff kind place holds)
    (same : holds ↔ also) :
    failure.IsReportedIff kind place also where
  reported held := told.reported (same.mpr held)
  unreported notHeld := told.unreported (mt same.mp notHeld)

end Failure.IsReportedIff

/-- What a file system says of a path is reported if it is a failure of the system. -/
theorem reportOfFile_isReportedIff
    (kind : ReportKind)
    (what : String)
    (path : Path)
    (reason : Files.Failure) :
    (reportOfFile kind what path reason).IsReportedIff kind path.text
      (reason.isOfSystem = true) := by
  unfold reportOfFile
  split
  · next ofSystem =>
      exact ⟨fun _ => ⟨_, _, rfl⟩, fun notOfSystem => absurd ofSystem notOfSystem⟩
  · next notOfSystem =>
      exact ⟨fun ofSystem => absurd ofSystem notOfSystem, fun _ _ same => by cases same⟩

/-- What is not caught is not reported. -/
theorem file_isReportedIff
    (kind : ReportKind)
    (place : String)
    (reason : Files.Failure)
    {holds : Prop}
    (never : ¬ holds) :
    (Failure.file reason).IsReportedIff kind place holds where
  reported held := absurd held never
  unreported _ _ same := by
    cases same

/-! ## Removing an old output -/

/-- What removing the file that a path leads to may do to a tree: nothing, or take it away. -/
def MayRemove
    (workingDirectory : Place)
    (path : Path)
    (tree later : Files.Tree) : Prop :=
  later = tree ∨
    ∃ place content,
      tree.reach workingDirectory path = .ok place ∧
        tree.get? place = some (.file content) ∧
        later = tree.erase place

namespace MayRemove

variable {workingDirectory : Place}
variable {path : Path}
variable {tree later : Files.Tree}

/-- Directories stay. -/
theorem directories
    (removes : MayRemove workingDirectory path tree later)
    {other : Place}
    (isDirectory : tree.get? other = some .directory) :
    later.get? other = some .directory := by
  rcases removes with rfl | ⟨place, content, -, found, rfl⟩
  · exact isDirectory
  · have elsewhere : other ≠ place := by
      rintro rfl
      rw [found] at isDirectory
      cases isDirectory
    rw [tree.get?_erase_other elsewhere]
    exact isDirectory

/-- The path leads to where it led before. -/
theorem reach
    (removes : MayRemove workingDirectory path tree later)
    {place : Place}
    (reaches : tree.reach workingDirectory path = .ok place) :
    later.reach workingDirectory path = .ok place :=
  Files.Tree.reach_of_directories (fun _ isDirectory => removes.directories isDirectory) reaches

/-- What is elsewhere stays. -/
theorem get?_other
    (removes : MayRemove workingDirectory path tree later)
    {place other : Place}
    (reaches : later.reach workingDirectory path = .ok place)
    (different : other ≠ place) :
    later.get? other = tree.get? other := by
  rcases id removes with rfl | ⟨removed, content, reachedBefore, found, rfl⟩
  · rfl
  · have samePlace : removed = place := by
      rw [removes.reach reachedBefore] at reaches
      exact Except.ok.inj reaches
    rw [samePlace]
    exact tree.get?_erase_other different

/-- Where a file was removed, another one can be written. -/
theorem eq_of_writeFile_error
    (removes : MayRemove workingDirectory path tree later)
    {content : List UInt8}
    {reason : Files.Failure}
    (refused : later.writeFile workingDirectory path content = .error reason) :
    later = tree := by
  rcases id removes with same | ⟨place, old, reaches, found, rfl⟩
  · exact same
  · have noDirectory : tree.get? place ≠ some .directory := by
      simp [found]
    have below := Files.Tree.ne_nil_of_get?_ne_directory noDirectory
    simp [Files.Tree.writeFile, removes.reach reaches, tree.get?_erase_same below] at refused

end MayRemove

section Steps

variable {surroundings : Surroundings}
variable {state : State}

theorem mayRemove_unlink
    (path : Path) :
    Ends surroundings state (unlink path)
      (fun _ final =>
        MayRemove surroundings.workingDirectory path state.tree final.tree)
      (fun _ _ => False) := by
  unfold unlink
  refine Ends.read ?_
  split
  · refine Ends.get (Ends.read ?_)
    split
    · next removed removes =>
        unfold Files.Tree.removeFile at removes
        split at removes
        · cases removes
        · next place reaches =>
            split at removes
            · cases removes
            · cases removes
            · next content found =>
                cases removes
                exact Ends.set (Ends.pure (Or.inr ⟨place, content, reaches, found, rfl⟩))
    · exact Ends.pure (Or.inl rfl)
  · exact Ends.pure (Or.inl rfl)
  · exact Ends.pure (Or.inl rfl)

/-- Removing an old output fails exactly when looking at it does, and then nothing has changed. -/
theorem mayRemove_removeOutput
    (path : Path)
    (timeout : Value) :
    Ends surroundings state (removeOutput path timeout)
      (fun _ final =>
        MayRemove surroundings.workingDirectory path state.tree final.tree ∧
          ∃ found?, state.tree.status? surroundings.workingDirectory path = .ok found?)
      (fun failure final =>
        final.tree = state.tree ∧
          ∃ reason,
            failure = .file reason ∧
              state.tree.status? surroundings.workingDirectory path = .error reason) := by
  unfold removeOutput
  refine Ends.exists?_bind ?_ (fun reason unasked => ⟨rfl, reason, rfl, unasked⟩)
  intro found? seen
  cases found? with
  | none =>
      exact Ends.pure ⟨Or.inl rfl, none, seen⟩
  | some entry =>
      refine Ends.bind
        ((mayRemove_unlink path).weaken
          (fun _ _ removes => removes) (fun _ _ never => never.elim)) ?_
      intro failure? between removes
      split
      · exact Ends.log ⟨removes, some entry, seen⟩
      · -- The path still leads to its place, so the second look cannot fail.
        have seenAgain :
            ∃ again?,
              between.tree.status? surroundings.workingDirectory path = .ok again? := by
          unfold Files.Tree.status? at seen
          split at seen
          · next reaches =>
              unfold Files.Tree.status?
              rw [removes.reach reaches]
              exact ⟨_, rfl⟩
          · cases seen
          · cases seen
        obtain ⟨again?, seenAgain⟩ := seenAgain
        have waits :
            Ends surroundings between (waitForRemoval path)
              (fun _ final => between = final)
              (fun failure final =>
                final.tree = state.tree ∧
                  ∃ reason,
                    failure = .file reason ∧
                      state.tree.status? surroundings.workingDirectory path =
                        .error reason) := by
          unfold waitForRemoval
          exact Ends.exists?_bind_of_ok seenAgain (Ends.pure rfl)
        refine waits.bind ?_
        rintro gone _ rfl
        split
        · exact Ends.log ⟨removes, some entry, seen⟩
        · exact Ends.log ⟨removes, some entry, seen⟩

end Steps

/-! ## Writing a new output -/

/-- A file along a path that took the place of what was there, with directories added at most. -/
structure Replaces
    (workingDirectory : Place)
    (path : Path)
    (content : String)
    (tree later : Files.Tree) : Prop where
  read : later.readFile workingDirectory path = .ok (Text.encode content)
  others :
    ∃ place,
      later.reach workingDirectory path = .ok place ∧
        (tree.set place (.file (Text.encode content))).ExtendsByDirectories later

namespace Replaces

variable {workingDirectory : Place}
variable {path : Path}
variable {content : String}
variable {tree ready later : Files.Tree}

/-- Directories may have been added before. -/
theorem after
    (first : tree.ExtendsByDirectories ready)
    (second : Replaces workingDirectory path content ready later) :
    Replaces workingDirectory path content tree later where
  read := second.read
  others := by
    obtain ⟨place, reaches, extended⟩ := second.others
    have noDirectory : later.get? place ≠ some .directory := by
      intro isDirectory
      have read := second.read
      simp [Files.Tree.readFile, reaches, isDirectory] at read
    have below := Files.Tree.ne_nil_of_get?_ne_directory noDirectory
    exact ⟨place, reaches, (first.set_both below _).trans extended⟩

/-- A file that is written where another one may have been removed takes its place. -/
theorem of_writeFile
    (removes : MayRemove workingDirectory path tree ready)
    (writes : ready.writeFile workingDirectory path (Text.encode content) = .ok later) :
    Replaces workingDirectory path content tree later where
  read := Files.Tree.readFile_of_writeFile writes
  others := by
    have read := Files.Tree.readFile_of_writeFile writes
    unfold Files.Tree.writeFile at writes
    split at writes
    · cases writes
    · next place reaches =>
        split at writes
        · cases writes
        · next noDirectory =>
            cases writes
            have below := Files.Tree.ne_nil_of_get?_ne_directory noDirectory
            have stay :
                ∀ other,
                  ready.get? other = some .directory →
                  (ready.set place (.file (Text.encode content))).get? other =
                    some .directory := by
              intro other isDirectory
              have elsewhere : other ≠ place := by
                rintro rfl
                exact noDirectory isDirectory
              rw [ready.get?_set_other elsewhere]
              exact isDirectory
            refine ⟨place, Files.Tree.reach_of_directories stay reaches, ?_⟩
            intro other
            left
            by_cases isPlace : other = place
            · subst other
              rw [ready.get?_set_same below, tree.get?_set_same below]
            · rw [ready.get?_set_other isPlace, tree.get?_set_other isPlace,
                removes.get?_other reaches isPlace]

end Replaces

/-- The tree in which an output is written: with a directory for it, unless that cannot be made. -/
def withDirectory?
    (tree : Files.Tree)
    (workingDirectory : Place)
    (directory : Path) : Option Files.Tree :=
  match tree.status? workingDirectory directory with
  | .ok (some _) => some tree
  | _ =>
      match tree.ensureDirectories workingDirectory directory with
      | (made, none) => some made
      | (_, some _) => none

/-- What keeps every failure to write an output among those that are reported: no look at its
directory meets a name that is too long, no look at the output itself does once the directory is
there, and no name on the way has a null character. -/
structure HasPlainNames
    (tree : Files.Tree)
    (workingDirectory : Place)
    (path : Path) : Prop where
  directory_askable : IsAskable path.parent
  directory_short :
    ¬ tree.MeetsLongName (Files.Tree.startOf workingDirectory path) path.parent.names
  askable :
    ∀ ready,
      withDirectory? tree workingDirectory path.parent = some ready →
      IsAskable path
  short :
    ∀ ready,
      withDirectory? tree workingDirectory path.parent = some ready →
      ¬ ready.MeetsLongName (Files.Tree.startOf workingDirectory path) path.names

/-- Where a look at the directory tells something and the directory is there or made, the names are
plain as far as the rest of the way goes. -/
theorem hasPlainNames_iff
    {tree ready : Files.Tree}
    {workingDirectory : Place}
    {path : Path}
    {found? : Option Entry}
    (seen : tree.status? workingDirectory path.parent = .ok found?)
    (prepared : withDirectory? tree workingDirectory path.parent = some ready) :
    HasPlainNames tree workingDirectory path ↔
      IsAskable path ∧
        ¬ ready.MeetsLongName (Files.Tree.startOf workingDirectory path) path.names := by
  constructor
  · intro names
    exact ⟨names.askable ready prepared, names.short ready prepared⟩
  · rintro ⟨askable, short⟩
    have directoryAskable : IsAskable path.parent := fun name member =>
      askable name (List.dropLast_subset path.names member)
    refine ⟨directoryAskable, ?_, ?_, ?_⟩
    · exact Files.Tree.not_meetsLongName_of_status? directoryAskable seen
    · intro _ _
      exact askable
    · intro other preparedOther
      rw [prepared] at preparedOther
      cases preparedOther
      exact short

/-- Where a look at the directory tells something but it cannot be made, only null characters on the
way to it are not plain. -/
theorem hasPlainNames_iff_of_unprepared
    {tree : Files.Tree}
    {workingDirectory : Place}
    {path : Path}
    {found? : Option Entry}
    (seen : tree.status? workingDirectory path.parent = .ok found?)
    (unprepared : withDirectory? tree workingDirectory path.parent = none) :
    HasPlainNames tree workingDirectory path ↔ IsAskable path.parent := by
  constructor
  · intro names
    exact names.directory_askable
  · intro askable
    exact
      ⟨askable, Files.Tree.not_meetsLongName_of_status? askable seen, by simp [unprepared],
        by simp [unprepared]⟩

/-- Names without null characters that directories can hold are plain, whatever is in the tree. -/
theorem HasPlainNames.of_forall
    {path : Path}
    (holdable :
      ∀ name ∈ path.names,
        '\x00' ∉ name.toList ∧ (name ≠ ".." → Files.Tree.isTooLong name = false))
    (tree : Files.Tree)
    (workingDirectory : Place) :
    HasPlainNames tree workingDirectory path := by
  have askable : IsAskable path := fun name member => (holdable name member).1
  have short {names : List String} (listed : ∀ name ∈ names, name ∈ path.names)
      (other : Files.Tree) (start : Place) :
      ¬ other.MeetsLongName start names := by
    rintro ⟨before, name, after, place, rfl, -, -, notDots, long⟩
    rw [(holdable name (listed name (by simp))).2 notDots] at long
    cases long
  have directoryNames : ∀ name ∈ path.parent.names, name ∈ path.names := fun name member =>
    List.dropLast_subset path.names member
  exact
    ⟨fun name member => askable name (directoryNames name member),
      short directoryNames tree _, fun _ _ => askable,
      fun ready _ => short (fun _ member => member) ready _⟩

section Steps

variable {surroundings : Surroundings}
variable {state : State}

/-- Once there is a directory for it, an output is replaced, or nothing has changed. -/
private theorem replaceAlong_ends
    (path : Path)
    (content : String)
    (timeout : Value) :
    Ends surroundings state
      (removeOutput path timeout >>= fun _ =>
        change (·.writeFile · path (Text.encode content))
          (reportOfFile .output "Could not write output file" path))
      (fun _ final =>
        Replaces surroundings.workingDirectory path content state.tree final.tree ∧
          IsAskable path ∧
          ¬ state.tree.MeetsLongName
            (Files.Tree.startOf surroundings.workingDirectory path) path.names)
      (fun failure final =>
        final.tree = state.tree ∧
          failure.IsReportedIff .output path.text
            (IsAskable path ∧
              ¬ state.tree.MeetsLongName
                (Files.Tree.startOf surroundings.workingDirectory path) path.names)) := by
  refine Ends.bind
    ((mayRemove_removeOutput path timeout).weaken (fun _ _ removes => removes) ?_) ?_
  · rintro failure final ⟨same, reason, rfl, unseen⟩
    refine ⟨same, file_isReportedIff _ _ reason ?_⟩
    rintro ⟨-, short⟩
    exact short (Files.Tree.status?_eq_error_iff.mp ⟨reason, unseen⟩).2
  · rintro _ between ⟨removes, found?, seen⟩
    have short (askable : IsAskable path) :
        ¬ state.tree.MeetsLongName
          (Files.Tree.startOf surroundings.workingDirectory path) path.names :=
      Files.Tree.not_meetsLongName_of_status? askable seen
    refine Ends.change ?_ ?_
    · intro written writes
      have askable : IsAskable path := Files.Tree.askable_of_writeFile writes
      exact ⟨Replaces.of_writeFile removes writes, askable, short askable⟩
    · intro reason refused
      refine ⟨removes.eq_of_writeFile_error refused, ?_⟩
      have fits := Files.Tree.fitsPath_of_writeFile refused
      exact (reportOfFile_isReportedIff _ _ path reason).congr
        (fits.trans ⟨fun askable => ⟨askable, short askable⟩, fun names => names.1⟩)

/-- An output that is replaced once directories were added for it is replaced in the tree from
before. -/
private theorem replaceAlong_ends_after
    {tree : Files.Tree}
    {path : Path}
    {found? : Option Entry}
    (seen : tree.status? surroundings.workingDirectory path.parent = .ok found?)
    (prepared :
      withDirectory? tree surroundings.workingDirectory path.parent = some state.tree)
    (extended : tree.ExtendsByDirectories state.tree)
    (content : String)
    (timeout : Value) :
    Ends surroundings state
      (removeOutput path timeout >>= fun _ =>
        change (·.writeFile · path (Text.encode content))
          (reportOfFile .output "Could not write output file" path))
      (fun _ final =>
        Replaces surroundings.workingDirectory path content tree final.tree ∧
          HasPlainNames tree surroundings.workingDirectory path)
      (fun failure final =>
        tree.ExtendsByDirectories final.tree ∧
          failure.IsReportedIff .output path.text
            (HasPlainNames tree surroundings.workingDirectory path)) := by
  rw [hasPlainNames_iff seen prepared]
  refine (replaceAlong_ends path content timeout).weaken ?_ ?_
  · rintro _ final ⟨replaces, names⟩
    exact ⟨replaces.after extended, names⟩
  · rintro failure final ⟨same, reports⟩
    rw [same]
    exact ⟨extended, reports⟩

/-- An output is replaced or reported, or its names are not plain; in any case nothing else of what
was there has changed. -/
theorem writeOutput_ends_along
    (path : Path)
    (content : String)
    (timeout : Value) :
    Ends surroundings state (writeOutput path content timeout)
      (fun _ final =>
        Replaces surroundings.workingDirectory path content state.tree final.tree ∧
          HasPlainNames state.tree surroundings.workingDirectory path)
      (fun failure final =>
        state.tree.ExtendsByDirectories final.tree ∧
          failure.IsReportedIff .output path.text
            (HasPlainNames state.tree surroundings.workingDirectory path)) := by
  unfold writeOutput
  refine Ends.exists?_bind ?_ ?_
  · intro found? seen
    cases found? with
    | some entry =>
        exact
          replaceAlong_ends_after seen (by simp [withDirectory?, seen])
            (Files.Tree.Extends.refl _ _) content timeout
    | none =>
        have making :=
          Files.Tree.ensureDirectories_isMaking state.tree surroundings.workingDirectory
            path.parent
        refine Ends.bind
          ((Ends.ensureDirectories_making path.parent _).weaken (fun _ _ makes => makes) ?_) ?_
        · rintro failure final ⟨reason, rfl, makes⟩
          rw [makes] at making
          have unprepared :
              withDirectory? state.tree surroundings.workingDirectory path.parent = none := by
            simp [withDirectory?, seen, makes]
          have fits := making.refused reason rfl
          exact
            ⟨making.extended,
              (reportOfFile_isReportedIff _ _ path reason).congr
                (fits.trans (hasPlainNames_iff_of_unprepared seen unprepared).symm)⟩
        · intro _ between makes
          rw [makes] at making
          refine Ends.log_bind fun logged same => ?_
          have prepared :
              withDirectory? state.tree surroundings.workingDirectory path.parent =
                some logged.tree := by
            simp [withDirectory?, seen, makes, same]
          have extended := making.extended
          rw [← same] at extended
          exact replaceAlong_ends_after seen prepared extended content timeout
  · intro reason unseen
    refine ⟨Files.Tree.Extends.refl _ _, file_isReportedIff _ _ reason ?_⟩
    intro names
    exact names.directory_short (Files.Tree.status?_eq_error_iff.mp ⟨reason, unseen⟩).2

end Steps

/-- A file name with more bytes than a directory can hold. -/
def longName : String :=
  String.ofList (List.replicate 256 'n')

end Tablewright.Run
