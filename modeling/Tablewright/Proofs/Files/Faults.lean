import Tablewright.Proofs.Files.Growth
import Tablewright.Proofs.Files.Status

/-!
# Faults of paths

What cannot be done with a path is a failure of the system, unless there is a null character in the
path: then no system can be asked. This goes for every path, wherever it starts and however often it
goes up, and so does what making directories leaves behind.
-/

namespace Tablewright.Files

/-- Whether a failure is of the system exactly when the path is one that a system can be asked
about. -/
def Failure.FitsPath
    (failure : Failure)
    (path : Path) : Prop :=
  failure.isOfSystem = true ↔ ∀ name ∈ path.names, '\x00' ∉ name.toList

namespace Tree

variable {tree : Tree}
variable {workingDirectory : Place}
variable {path : Path}

/-- A path that leads somewhere can be asked about. -/
theorem askable_of_reach
    {place : Place}
    (reaches : tree.reach workingDirectory path = .ok place) :
    ∀ name ∈ path.names, '\x00' ∉ name.toList := by
  by_cases askable : ∀ name ∈ path.names, '\x00' ∉ name.toList
  · exact askable
  · rw [reach_of_unaskable askable] at reaches
    cases reaches

/-- A path leads somewhere exactly when it can be asked about and its names lead there. -/
theorem reach_eq_ok_iff_reachFrom
    {place : Place} :
    tree.reach workingDirectory path = .ok place ↔
      (∀ name ∈ path.names, '\x00' ∉ name.toList) ∧
        tree.reachFrom (startOf workingDirectory path) path.names = .ok place := by
  constructor
  · intro reaches
    have askable := askable_of_reach reaches
    refine ⟨askable, ?_⟩
    rw [reach_of_askable askable] at reaches
    split at reaches
    · next along =>
        cases reaches
        exact along
    · cases reaches
  · rintro ⟨askable, along⟩
    rw [reach_of_askable askable, along]

/-- Going along names is stopped by the system. -/
theorem reachFrom_ne_nullCharacter
    (start : Place)
    (names : List String) :
    tree.reachFrom start names ≠ .error .nullCharacter := by
  fun_induction reachFrom tree start names with
  | case1 | case2 | case3 | case5 =>
      simp
  | case4 _ _ _ inductionHypothesis | case6 _ _ _ _ _ _ inductionHypothesis =>
      exact inductionHypothesis

/-- Where a path leads nowhere, the failure fits it. -/
theorem fitsPath_of_reach
    {failure : Failure}
    (fails : tree.reach workingDirectory path = .error failure) :
    failure.FitsPath path := by
  by_cases askable : ∀ name ∈ path.names, '\x00' ∉ name.toList
  · rw [reach_of_askable askable] at fails
    split at fails
    · cases fails
    · next fault stops =>
        cases fails
        have ofSystem : fault ≠ .nullCharacter := by
          rintro rfl
          exact reachFrom_ne_nullCharacter _ _ stops
        exact iff_of_true (by simpa [Failure.isOfSystem] using ofSystem) askable
  · rw [reach_of_unaskable askable] at fails
    cases fails
    exact iff_of_false (by simp [Failure.isOfSystem]) askable

/-- Where a path leads somewhere, what the system has against the rest fits it. -/
theorem fitsPath_of_reached
    {place : Place}
    {failure : Failure}
    (reaches : tree.reach workingDirectory path = .ok place)
    (ofSystem : failure.isOfSystem = true) :
    failure.FitsPath path :=
  iff_of_true ofSystem (askable_of_reach reaches)

/-- A file that cannot be read is not read for a reason that fits its path. -/
theorem fitsPath_of_readFile
    {failure : Failure}
    (fails : tree.readFile workingDirectory path = .error failure) :
    failure.FitsPath path := by
  unfold readFile at fails
  split at fails
  · next stops =>
      cases fails
      exact fitsPath_of_reach stops
  · next reaches =>
      split at fails <;> cases fails <;> exact fitsPath_of_reached reaches rfl

/-- A file that cannot be written is not written for a reason that fits its path. -/
theorem fitsPath_of_writeFile
    {content : List UInt8}
    {failure : Failure}
    (fails : tree.writeFile workingDirectory path content = .error failure) :
    failure.FitsPath path := by
  unfold writeFile at fails
  split at fails
  · next stops =>
      cases fails
      exact fitsPath_of_reach stops
  · next reaches =>
      split at fails <;> cases fails
      exact fitsPath_of_reached reaches rfl

/-- A file that is written has a path that can be asked about. -/
theorem askable_of_writeFile
    {content : List UInt8}
    {written : Tree}
    (writes : tree.writeFile workingDirectory path content = .ok written) :
    ∀ name ∈ path.names, '\x00' ∉ name.toList := by
  unfold writeFile at writes
  split at writes
  · cases writes
  · next reaches =>
      exact askable_of_reach reaches

/-- What is seen is seen along a path that can be asked about. -/
theorem askable_of_status?
    {entry : Entry}
    (seen : tree.status? workingDirectory path = .ok (some entry)) :
    ∀ name ∈ path.names, '\x00' ∉ name.toList := by
  unfold status? at seen
  split at seen
  · next reaches =>
      exact askable_of_reach reaches
  · cases seen
  · cases seen

/-! ## Making directories -/

/-- A tree that has everything that another one has, and otherwise only directories. -/
abbrev ExtendsByDirectories
    (tree later : Tree) : Prop :=
  tree.Extends later fun _ entry => entry = .directory

/-- What may come of making a directory: nothing but directories is added, and a directory that is
not made is not made for a reason that fits its path. -/
structure IsMaking
    (tree : Tree)
    (path : Path)
    (making : Making) : Prop where
  extended : tree.ExtendsByDirectories making.1
  made : making.2 = none → ∀ name ∈ path.names, '\x00' ∉ name.toList
  refused : ∀ failure, making.2 = some failure → failure.FitsPath path

namespace IsMaking

/-- A directory is made along a path that can be asked about. -/
theorem of_made
    {later : Tree}
    (extended : tree.ExtendsByDirectories later)
    (askable : ∀ name ∈ path.names, '\x00' ∉ name.toList) :
    tree.IsMaking path (later, none) where
  extended := extended
  made _ := askable
  refused _ fails := by
    cases fails

theorem of_refused
    {later : Tree}
    {failure : Failure}
    (extended : tree.ExtendsByDirectories later)
    (fits : failure.FitsPath path) :
    tree.IsMaking path (later, some failure) where
  extended := extended
  made succeeds := by
    cases succeeds
  refused _ fails := by
    cases fails
    exact fits

/-- Something else may have been made before. -/
theorem after
    {middle : Tree}
    {making : Making}
    (first : tree.ExtendsByDirectories middle)
    (second : middle.IsMaking path making) :
    tree.IsMaking path making where
  extended := first.trans second.extended
  made := second.made
  refused := second.refused

end IsMaking

theorem ensureDirectory_isMaking
    (tree : Tree)
    (workingDirectory : Place)
    (path : Path) :
    tree.IsMaking path (tree.ensureDirectory workingDirectory path) := by
  unfold ensureDirectory
  split
  · next made makes =>
      unfold makeDirectory at makes
      split at makes
      · cases makes
      · next reaches =>
          split at makes
          · cases makes
          · next absent =>
              cases makes
              exact IsMaking.of_made (Extends.set absent rfl) (askable_of_reach reaches)
  · next failure fails =>
      split
      · next present =>
          have isDirectory : tree.isDirectory workingDirectory path = true := by
            simp only [Bool.and_eq_true] at present
            exact present.2
          unfold Tree.isDirectory at isDirectory
          split at isDirectory
          · next seen =>
              exact IsMaking.of_made (Extends.refl tree _) (askable_of_status? seen)
          · cases isDirectory
      · refine IsMaking.of_refused (Extends.refl tree _) ?_
        unfold makeDirectory at fails
        split at fails
        · next stops =>
            cases fails
            exact fitsPath_of_reach stops
        · next reaches =>
            split at fails <;> cases fails
            exact fitsPath_of_reached reaches rfl

theorem ensureDirectoriesUpTo_isMaking
    (tree : Tree)
    (workingDirectory : Place)
    (path : Path)
    (depth : Nat) :
    tree.IsMaking path (tree.ensureDirectoriesUpTo workingDirectory path depth) := by
  induction depth generalizing tree path with
  | zero =>
      exact ensureDirectory_isMaking tree workingDirectory path
  | succ depth inductionHypothesis =>
      have first := ensureDirectory_isMaking tree workingDirectory path
      unfold ensureDirectoriesUpTo
      split
      · next made making =>
          rw [making] at first
          exact first
      · next made failure making =>
          rw [making] at first
          split
          · next isMissing =>
              have askable : ∀ name ∈ path.names, '\x00' ∉ name.toList := by
                apply (first.refused failure rfl).mp
                simp only [Bool.and_eq_true, decide_eq_true_eq] at isMissing
                simp [Failure.isOfSystem, isMissing.1]
              have askableParent :
                  ∀ name ∈ path.parent.names, '\x00' ∉ name.toList := fun name member =>
                askable name (List.dropLast_subset path.names member)
              have above := inductionHypothesis made path.parent
              split
              · next cleared makingAbove =>
                  rw [makingAbove] at above
                  exact (ensureDirectory_isMaking cleared workingDirectory path).after
                    (first.extended.trans above.extended)
              · next left reason makingAbove =>
                  rw [makingAbove] at above
                  have ofSystem : reason.isOfSystem = true :=
                    (above.refused reason rfl).mpr askableParent
                  exact IsMaking.of_refused (first.extended.trans above.extended)
                    (iff_of_true ofSystem askable)
          · exact first

/-- Making a directory with all that are missing adds nothing but directories, and where it fails,
the failure fits the path. -/
theorem ensureDirectories_isMaking
    (tree : Tree)
    (workingDirectory : Place)
    (path : Path) :
    tree.IsMaking path (tree.ensureDirectories workingDirectory path) :=
  ensureDirectoriesUpTo_isMaking tree workingDirectory path path.names.length

end Tree

end Tablewright.Files
