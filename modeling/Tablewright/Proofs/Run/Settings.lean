import Tablewright.Proofs.Files.Status
import Tablewright.Proofs.Run.Outcome
import Tablewright.Proofs.Settings.TableLists
import Tablewright.Run.Settings

/-!
# What loading settings comes to

What is wrong with settings is told in a report on the configuration. The exceptions are few: a name
on the way to the file that is too long, a file that is no text, a scalar that is no value of its
kind, and lists of tables that cannot be judged. The main statement says that these are all.
-/

namespace Tablewright.Run

open Files (Entry Path Place)

/-- A failure that is told in a report on the configuration. -/
def Failure.IsConfigurationReport : Failure → Prop
  | .report told => told.kind = .configuration
  | _ => False

/-- Loading settings has come to settings, or to a report on the configuration. -/
def GivesSettingsOrReport
    (result : Except Failure Settings) : Prop :=
  match result with
  | .ok _ => True
  | .error failure => failure.IsConfigurationReport

instance
    (failure : Failure) : Decidable failure.IsConfigurationReport :=
  match failure with
  | .report told => inferInstanceAs (Decidable (told.kind = .configuration))
  | .file _ | .undecodable _ | .interruption _ | .scalar _ | .naming _ | .noPath => .isFalse id

instance
    (result : Except Failure Settings) : Decidable (GivesSettingsOrReport result) :=
  match result with
  | .ok _ => .isTrue trivial
  | .error failure => inferInstanceAs (Decidable failure.IsConfigurationReport)

/-- A document that can be made settings of: its scalars are values of their kinds, and if it is a
mapping its lists of tables can be judged. -/
def IsUsableDocument
    (text : String) : Prop :=
  (∀ fault, Document.read text ≠ .error (.scalar fault)) ∧
    ∀ entries,
      Document.read text = .ok (some (.map entries)) →
      Settings.HasTableLists entries

/-- The bytes of a file that can be made settings of. -/
def IsUsableContent
    (content : List UInt8) : Prop :=
  ∃ text,
    Text.decode content = .ok text ∧
      IsUsableDocument (String.ofList (Text.unifyLineEnds text.toList))

/-- A file of settings is found or missed, and if it is found it can be made settings of. -/
def IsUsableFile
    (surroundings : Surroundings)
    (tree : Files.Tree)
    (file : String) : Prop :=
  ((∀ name ∈ (Path.ofText file).names, '\x00' ∉ name.toList) →
      ¬ tree.MeetsLongName
        (Files.Tree.startOf surroundings.workingDirectory (Path.ofText file))
        (Path.ofText file).names) ∧
    ∀ content,
      tree.status? surroundings.workingDirectory (Path.ofText file) =
        .ok (some (.file content)) →
      IsUsableContent content

/-- If a step comes to a value only where something holds, and fails with a report on the
configuration exactly where it holds, then it gives settings or such a report exactly where it
holds. -/
theorem Ends.givesSettingsOrReport_iff
    {surroundings : Surroundings}
    {state : State}
    {step : Run Settings}
    {holds : Prop}
    (ends :
      Ends surroundings state step
        (fun _ _ => holds)
        (fun failure _ => failure.IsConfigurationReport ↔ holds)) :
    GivesSettingsOrReport (outcome step surroundings state).1 ↔ holds := by
  cases ended : outcome step surroundings state with
  | mk result final =>
      cases result with
      | ok settings =>
          exact iff_of_true trivial (ends.of_ok ended)
      | error failure =>
          exact ends.of_error ended

/-- Checking the settings of a mapping reports what is wrong exactly when its lists of tables can be
judged. -/
theorem checkSettings_ends
    {surroundings : Surroundings}
    {state : State}
    (file? : Option String)
    (entries : List (Value × Value)) :
    Ends surroundings state (checkSettings file? (.map entries))
      (fun _ _ => Settings.HasTableLists entries)
      (fun failure _ =>
        failure.IsConfigurationReport ↔ Settings.HasTableLists entries) := by
  have judged :
      (∃ checked, Settings.ofValue (.map entries) = .ok checked) ↔
        Settings.HasTableLists entries :=
    Settings.exists_ofEntries_iff
  rw [← judged]
  unfold checkSettings Settings.validate
  cases Settings.ofValue (.map entries) with
  | error interruption =>
      exact Ends.throw (by simp [Failure.IsConfigurationReport])
  | ok checked =>
      cases checked with
      | error problems =>
          exact Ends.throw (iff_of_true rfl ⟨_, rfl⟩)
      | ok settings =>
          exact Ends.log_bind fun _ _ => Ends.pure ⟨_, rfl⟩

/-- Reading the text of a file of settings fails, and not with a report, exactly when its bytes are
no text. -/
theorem readSettingsText_ends
    {surroundings : Surroundings}
    {state : State}
    {path : Path}
    {content : List UInt8}
    (seen :
      state.tree.status? surroundings.workingDirectory path = .ok (some (.file content))) :
    Ends surroundings state (readSettingsText path)
      (fun text final =>
        final = state ∧
          ∃ decoded,
            Text.decode content = .ok decoded ∧
              text = String.ofList (Text.unifyLineEnds decoded.toList))
      (fun failure _ =>
        ¬ failure.IsConfigurationReport ∧ ∀ decoded, Text.decode content ≠ .ok decoded) := by
  unfold readSettingsText
  refine Ends.ask_bind_of_ok (Files.Tree.readFile_of_status? seen) ?_
  cases decodes : Text.decode content with
  | ok decoded =>
      exact Ends.pure ⟨rfl, decoded, rfl, rfl⟩
  | error malformed =>
      refine Ends.throw ⟨id, ?_⟩
      intro decoded decodesToo
      cases decodesToo

/-- A file of settings that is looked at in vain cannot be used. -/
theorem not_isUsableFile
    {surroundings : Surroundings}
    {tree : Files.Tree}
    {file : String}
    {reason : Files.Failure}
    (unseen :
      tree.status? surroundings.workingDirectory (Path.ofText file) = .error reason) :
    ¬ IsUsableFile surroundings tree file := by
  rintro ⟨seeable, -⟩
  obtain ⟨askable, meets⟩ := Files.Tree.status?_eq_error_iff.mp ⟨reason, unseen⟩
  exact seeable askable meets

/-- A path that can be looked at is that of a file that can be used unless it leads to one that
cannot. -/
theorem isUsableFile_iff
    {surroundings : Surroundings}
    {tree : Files.Tree}
    {file : String}
    {found? : Option Entry}
    (seen :
      tree.status? surroundings.workingDirectory (Path.ofText file) = .ok found?) :
    IsUsableFile surroundings tree file ↔
      ∀ content, found? = some (.file content) → IsUsableContent content := by
  unfold IsUsableFile
  rw [seen, and_iff_right fun askable => Files.Tree.not_meetsLongName_of_status? askable seen]
  simp

/-- What settings a document holds is told or reported, unless a scalar is no value of its kind. -/
theorem readDocument_ends
    {surroundings : Surroundings}
    {state : State}
    (file text : String) :
    Ends surroundings state
      (match Document.read text with
        | .error (.scalar fault) => throw (.scalar fault)
        | .error fault =>
            failAtSettings file
              ("Error parsing YAML file: " ++ fault.message (Path.ofText file).text)
        | .ok none => do
            log [.warning ("Config file " ++ file ++ " is empty. Using defaults.")]
            return []
        | .ok (some .null) => do
            log [.warning ("Config file " ++ file ++ " is empty. Using defaults.")]
            return []
        | .ok (some (.map entries)) => do
            log [.debug ("Loaded configuration from " ++ file)]
            return entries
        | .ok (some _) => failAtSettings file "Config file content must be a mapping.")
      (fun entries _ => IsUsableDocument text ↔ Settings.HasTableLists entries)
      (fun failure _ => failure.IsConfigurationReport ↔ IsUsableDocument text) := by
  unfold IsUsableDocument
  split
  · next fault isScalar =>
      exact Ends.throw (iff_of_false id fun usable => usable.1 fault isScalar)
  · next fault notScalar isError =>
      refine Ends.throw (iff_of_true rfl ⟨?_, ?_⟩)
      · intro scalar same
        rw [isError] at same
        cases same
        exact notScalar scalar rfl
      · intro entries same
        rw [isError] at same
        cases same
  · next isEmpty =>
      refine Ends.log_bind fun _ _ => Ends.pure (iff_of_true ?_ Settings.hasTableLists_nil)
      simp [isEmpty]
  · next isNull =>
      refine Ends.log_bind fun _ _ => Ends.pure (iff_of_true ?_ Settings.hasTableLists_nil)
      simp [isNull]
  · next entries isMap =>
      refine Ends.log_bind fun _ _ => Ends.pure ?_
      simp [isMap]
  · next value notNull notMap isValue =>
      refine Ends.throw (iff_of_true rfl ⟨by simp [isValue], ?_⟩)
      intro entries same
      rw [isValue] at same
      cases same
      exact (notMap entries rfl).elim

/-- Reading the entries of a file of settings gives entries that say whether it can be used, or it
fails, with a report exactly when the file can be used. -/
theorem readSettings_ends
    {surroundings : Surroundings}
    {state : State}
    (file : String) :
    Ends surroundings state (readSettings file)
      (fun entries _ =>
        IsUsableFile surroundings state.tree file ↔ Settings.HasTableLists entries)
      (fun failure _ =>
        failure.IsConfigurationReport ↔ IsUsableFile surroundings state.tree file) := by
  unfold readSettings
  refine Ends.ask_bind ?_ ?_
  · intro found? seen
    rw [isUsableFile_iff seen]
    split
    · next content =>
        simp only [Option.some.injEq, Entry.file.injEq, forall_eq']
        refine Ends.bind ((readSettingsText_ends seen).weaken (fun _ _ read => read) ?_) ?_
        · rintro failure _ ⟨notReport, undecodable⟩
          refine iff_of_false notReport ?_
          rintro ⟨decoded, decodes, -⟩
          exact undecodable decoded decodes
        · rintro text _ ⟨rfl, decoded, decodes, rfl⟩
          have usable :
              IsUsableContent content ↔
                IsUsableDocument (String.ofList (Text.unifyLineEnds decoded.toList)) := by
            simp [IsUsableContent, decodes]
          rw [usable]
          exact readDocument_ends file _
    · next notFile =>
        refine Ends.throw (iff_of_true rfl ?_)
        intro content isFile
        exact (notFile content isFile).elim
  · intro reason unseen
    exact iff_of_false id (not_isUsableFile unseen)

/-- Loading settings gives settings or a report on the configuration exactly when no file is given or
the file can be used. -/
theorem loadSettings_ends
    {surroundings : Surroundings}
    {state : State}
    (file? : Option String) :
    Ends surroundings state (loadSettings file?)
      (fun _ _ =>
        ∀ file, file? = some file → file ≠ "" → IsUsableFile surroundings state.tree file)
      (fun failure _ =>
        failure.IsConfigurationReport ↔
          ∀ file, file? = some file → file ≠ "" →
            IsUsableFile surroundings state.tree file) := by
  unfold loadSettings
  split
  · refine (checkSettings_ends none []).weaken ?_ ?_
    · simp
    · intro failure _ reported
      simpa [Settings.hasTableLists_nil] using reported
  · next file =>
      simp only [Option.some.injEq, forall_eq']
      split
      · next isEmpty =>
          refine (checkSettings_ends none []).weaken ?_ ?_
          · simp [isEmpty]
          · intro failure _ reported
            simpa [Settings.hasTableLists_nil, isEmpty] using reported
      · next nonempty =>
          simp only [ne_eq, nonempty, not_false_eq_true, forall_const]
          refine (readSettings_ends file).bind ?_
          intro entries _ usable
          rw [usable]
          exact checkSettings_ends (some file) entries

/-- What is wrong with a configuration is always told in a report on it, with these exceptions: a
mapping whose lists of tables cannot be judged, a path with a name that is too long, a file that is
no text, and a document with a scalar that is no value of its kind. -/
theorem settings_or_report_iff
    (surroundings : Surroundings)
    (tree : Files.Tree) :
    (∀ file? entries,
      GivesSettingsOrReport
          (perform (checkSettings file? (.map entries)) surroundings tree).1 ↔
        Settings.HasTableLists entries) ∧
      ∀ file?,
        GivesSettingsOrReport (perform (loadSettings file?) surroundings tree).1 ↔
          ∀ file, file? = some file → file ≠ "" → IsUsableFile surroundings tree file := by
  constructor
  · intro file? entries
    rw [perform_eq_outcome]
    exact (checkSettings_ends file? entries).givesSettingsOrReport_iff
  · intro file?
    rw [perform_eq_outcome]
    exact (loadSettings_ends file?).givesSettingsOrReport_iff

/-- A text in the place of a list of tables is not reported, and neither is a file that is no text. -/
theorem settings_neither_given_nor_reported :
    ¬ GivesSettingsOrReport
        (perform (checkSettings none (.map [(.text "include_tables", .text "posts")]))
          ⟨["w"], .works⟩ ⟨[(["w"], .directory)]⟩).1 ∧
      ¬ GivesSettingsOrReport
        (perform (loadSettings (some "c.yaml"))
          ⟨["w"], .works⟩ ⟨[(["w"], .directory), (["w", "c.yaml"], .file [255])]⟩).1 := by
  decide +kernel

end Tablewright.Run
