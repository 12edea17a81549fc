import Tablewright.Proofs.Files.Tree

/-!
# Looking at paths

Looking at a path tells what is there or that nothing is there. Only a name that no directory can
hold keeps it from telling either, and only when the way before it leads to a directory.
-/

namespace Tablewright.Files

namespace Tree

/-- A way that comes to a directory and goes on with a name that is too long for it. -/
def MeetsLongName
    (tree : Tree)
    (start : Place)
    (names : List String) : Prop :=
  ∃ before name after place,
    names = before ++ name :: after ∧
      tree.reachFrom start before = .ok place ∧
      tree.get? place = some .directory ∧
      name ≠ ".." ∧
      isTooLong name = true

/-- A way meets a name that is too long behind a step that it can take exactly when it does so with
that step. -/
theorem meetsLongName_cons
    {tree : Tree}
    {start next : Place}
    {name : String}
    {rest : List String}
    (steps : ∀ names, tree.reachFrom start (name :: names) = tree.reachFrom next names)
    (fits : name = ".." ∨ isTooLong name = false) :
    tree.MeetsLongName start (name :: rest) ↔ tree.MeetsLongName next rest := by
  constructor
  · rintro ⟨before, long, after, place, shape, reaches, isDirectory, notDots, isLong⟩
    cases before with
    | nil =>
        cases shape
        rcases fits with isDots | isShort
        · exact (notDots isDots).elim
        · rw [isShort] at isLong
          cases isLong
    | cons first before =>
        cases shape
        rw [steps] at reaches
        exact ⟨before, long, after, place, rfl, reaches, isDirectory, notDots, isLong⟩
  · rintro ⟨before, long, after, place, rfl, reaches, isDirectory, notDots, isLong⟩
    refine ⟨name :: before, long, after, place, rfl, ?_, isDirectory, notDots, isLong⟩
    rw [steps]
    exact reaches

/-- A way whose first step cannot be taken for another reason meets no name that is too long. -/
theorem not_meetsLongName_of_get?_ne_directory
    {tree : Tree}
    {start : Place}
    {names : List String}
    (noDirectory : tree.get? start ≠ some .directory) :
    ¬ tree.MeetsLongName start names := by
  rintro ⟨before, long, after, place, -, reaches, isDirectory, -, -⟩
  cases before with
  | nil =>
      cases reaches
      exact noDirectory isDirectory
  | cons first before =>
      unfold reachFrom at reaches
      split at reaches
      · cases reaches
      · cases reaches
      · next isDirectoryHere =>
          exact noDirectory isDirectoryHere

/-- Going along names is stopped by the length of one exactly when the way meets such a name. -/
theorem reachFrom_eq_nameTooLong_iff
    {tree : Tree}
    {start : Place}
    {names : List String} :
    tree.reachFrom start names = .error .nameTooLong ↔ tree.MeetsLongName start names := by
  induction names generalizing start with
  | nil =>
      constructor
      · intro stopped
        cases stopped
      · rintro ⟨before, name, after, place, shape, -⟩
        cases before <;> cases shape
  | cons name rest inductionHypothesis =>
      cases found : tree.get? start with
      | none =>
          have never : ¬ tree.MeetsLongName start (name :: rest) :=
            not_meetsLongName_of_get?_ne_directory (by simp [found])
          simp [reachFrom, found, never]
      | some entry =>
          cases entry with
          | file content =>
              have never : ¬ tree.MeetsLongName start (name :: rest) :=
                not_meetsLongName_of_get?_ne_directory (by simp [found])
              simp [reachFrom, found, never]
          | directory =>
              by_cases isDots : name = ".."
              · have steps :
                    ∀ names,
                      tree.reachFrom start (name :: names) =
                        tree.reachFrom start.dropLast names := by
                  intro names
                  simp [reachFrom, found, isDots]
                rw [steps, inductionHypothesis, meetsLongName_cons steps (Or.inl isDots)]
              · cases long : isTooLong name with
                | true =>
                    have stopped :
                        tree.reachFrom start (name :: rest) = .error .nameTooLong := by
                      simp [reachFrom, found, isDots, long]
                    exact iff_of_true stopped
                      ⟨[], name, rest, start, rfl, rfl, found, isDots, long⟩
                | false =>
                    have steps :
                        ∀ names,
                          tree.reachFrom start (name :: names) =
                            tree.reachFrom (start ++ [name]) names := by
                      intro names
                      simp [reachFrom, found, isDots, long]
                    rw [steps, inductionHypothesis, meetsLongName_cons steps (Or.inr long)]

/-- Where a path starts. -/
def startOf
    (workingDirectory : Place)
    (path : Path) : Place :=
  match path.anchor with
  | .workingDirectory => workingDirectory
  | _ => []

/-- A path without null characters leads to where its names lead. -/
theorem reach_of_askable
    {path : Path}
    (askable : ∀ name ∈ path.names, '\x00' ∉ name.toList)
    (tree : Tree)
    (workingDirectory : Place) :
    tree.reach workingDirectory path =
      match tree.reachFrom (startOf workingDirectory path) path.names with
      | .ok place => .ok place
      | .error fault => .error ⟨fault, path⟩ := by
  have noNull : ¬ (path.names.any fun name => name.toList.contains '\x00') = true := by
    simpa using askable
  rw [reach, if_neg noNull]
  change Except.mapError _ (tree.reachFrom (startOf workingDirectory path) path.names) = _
  cases tree.reachFrom (startOf workingDirectory path) path.names <;> rfl

/-- A path with a null character leads nowhere. -/
theorem reach_of_unaskable
    {path : Path}
    (unaskable : ¬ ∀ name ∈ path.names, '\x00' ∉ name.toList)
    (tree : Tree)
    (workingDirectory : Place) :
    tree.reach workingDirectory path = .error ⟨.nullCharacter, path⟩ := by
  have withNull : (path.names.any fun name => name.toList.contains '\x00') = true := by
    simpa using unaskable
  rw [reach, if_pos withNull]

/-- Looking at a path tells nothing exactly when its way meets a name that is too long. A path that
no system can be asked about leads to nothing. -/
theorem status?_eq_error_iff
    {tree : Tree}
    {workingDirectory : Place}
    {path : Path} :
    (∃ failure, tree.status? workingDirectory path = .error failure) ↔
      (∀ name ∈ path.names, '\x00' ∉ name.toList) ∧
        tree.MeetsLongName (startOf workingDirectory path) path.names := by
  rw [← reachFrom_eq_nameTooLong_iff]
  by_cases askable : ∀ name ∈ path.names, '\x00' ∉ name.toList
  · unfold status?
    rw [reach_of_askable askable]
    cases tree.reachFrom (startOf workingDirectory path) path.names with
    | ok place =>
        simp
    | error fault =>
        cases fault with
        | nameTooLong =>
            simpa using askable
        | missing | present | notDirectory | isDirectory | locked | nullCharacter =>
            simp
  · unfold status?
    rw [reach_of_unaskable askable]
    simp [askable]

/-- Looking at a path that can be asked about tells something as long as it meets no name that is
too long. -/
theorem not_meetsLongName_of_status?
    {tree : Tree}
    {workingDirectory : Place}
    {path : Path}
    {found? : Option Entry}
    (askable : ∀ name ∈ path.names, '\x00' ∉ name.toList)
    (seen : tree.status? workingDirectory path = .ok found?) :
    ¬ tree.MeetsLongName (startOf workingDirectory path) path.names := by
  intro meets
  obtain ⟨reason, unseen⟩ := status?_eq_error_iff.mpr ⟨askable, meets⟩
  rw [seen] at unseen
  cases unseen

/-- What is seen as a file is read as that file. -/
theorem readFile_of_status?
    {tree : Tree}
    {workingDirectory : Place}
    {path : Path}
    {content : List UInt8}
    (seen : tree.status? workingDirectory path = .ok (some (.file content))) :
    tree.readFile workingDirectory path = .ok content := by
  unfold status? at seen
  unfold readFile
  split at seen
  · next place reaches =>
      simp only [Except.ok.injEq] at seen
      simp only [reaches, seen]
  · cases seen
  · cases seen

end Tree

end Tablewright.Files
