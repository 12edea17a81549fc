import Tablewright.Proofs.Run.Replacing
import Tablewright.Proofs.Schema.Spellings

/-!
# Failures of a generation

A generation that fails reports on the schema, the template, a table, the output or the clash of two
paths. What is not reported is followed stage by stage: paths that no system is asked about, looks
that meet a name that is too long, and a template that is no text. The main statement says that
these are all.
-/

namespace Tablewright.Run

open Files (Entry Path Place)
open Methods (MethodBlock)

variable {surroundings : Surroundings}
variable {state : State}

/-- A report of a generation, of the kind that goes with what it is about. -/
inductive IsGenerationReport
    (surroundings : Surroundings)
    (schema output : Path)
    (settings : Settings)
    (failure : Failure) : Prop where
  | clash
      (same : templatePlace surroundings output settings = outputPlace surroundings output)
      (reports :
        failure =
          .report
            (clashOfPaths (.ofPlace (outputPlace surroundings output))
              (.ofPlace (templatePlace surroundings output settings))))
  | schema
      (reports :
        failure.IsReportOn .schema (Path.ofPlace (schemaPlace surroundings schema)).text)
  | template
      (reports :
        failure.IsReportOn .template
          (Path.ofPlace (templatePlace surroundings output settings)).text)
  | table
      (name : String)
      (reports : failure.IsReportOn .generation name)
  | output
      (reports :
        failure.IsReportOn .output (Path.ofPlace (outputPlace surroundings output)).text)

/-- Only reports are reports of a generation. -/
theorem IsGenerationReport.exists_report
    {schema output : Path}
    {settings : Settings}
    {failure : Failure}
    (reported : IsGenerationReport surroundings schema output settings failure) :
    ∃ told, failure = .report told := by
  cases reported with
  | clash same reports =>
      exact ⟨_, reports⟩
  | schema reports | template reports | table name reports | output reports =>
      obtain ⟨message, suggestions, same⟩ := reports
      exact ⟨_, same⟩

/-- A failure that is reported on a place where something holds is a report of the generation there
if reports on the place are. -/
theorem isGenerationReport_iff
    {schema output : Path}
    {settings : Settings}
    {failure : Failure}
    {kind : ReportKind}
    {place : String}
    {holds : Prop}
    (told : failure.IsReportedIff kind place holds)
    (fits :
      failure.IsReportOn kind place →
      IsGenerationReport surroundings schema output settings failure) :
    IsGenerationReport surroundings schema output settings failure ↔ holds := by
  constructor
  · intro reported
    by_cases held : holds
    · exact held
    · obtain ⟨report, same⟩ := reported.exists_report
      exact absurd same (told.unreported held report)
  · intro held
    exact fits (told.reported held)

/-! ## Paths from the working directory -/

/-- Going along names ends at a place of these names and those of the beginning. -/
theorem mem_of_mem_walk
    {place : Place}
    {names : List String}
    {name : String}
    (member : name ∈ Path.walk place names) :
    name ∈ place ∨ name ∈ names := by
  fun_induction Path.walk place names with
  | case1 place =>
      exact Or.inl member
  | case2 place rest inductionHypothesis =>
      rcases inductionHypothesis member with before | after
      · exact Or.inl (List.dropLast_subset place before)
      · exact Or.inr (List.mem_cons_of_mem _ after)
  | case3 place next rest notDots inductionHypothesis =>
      rcases inductionHypothesis member with before | after
      · rcases List.mem_append.mp before with inPlace | isNext
        · exact Or.inl inPlace
        · rw [List.mem_singleton.mp isNext]
          exact Or.inr List.mem_cons_self
      · exact Or.inr (List.mem_cons_of_mem _ after)

/-- From a working directory that can be asked about, so can the place of a path. -/
theorem isAskable_placeFrom
    {workingDirectory : Place}
    {path : Path}
    (here : ∀ name ∈ workingDirectory, '\x00' ∉ name.toList)
    (askable : IsAskable path) :
    IsAskable (.ofPlace (path.placeFrom workingDirectory)) := by
  intro name member
  change name ∈ path.placeFrom workingDirectory at member
  unfold Path.placeFrom at member
  split at member
  · rcases mem_of_mem_walk member with before | after
    · exact here name before
    · exact askable name after
  · rcases mem_of_mem_walk member with before | after
    · cases before
    · exact askable name after

/-- The directory of an output can be asked about if the output can. -/
theorem isAskable_outputDirectory
    {output : Path}
    (askable : IsAskable (.ofPlace (outputPlace surroundings output))) :
    IsAskable (.ofPlace (outputDirectory surroundings output)) :=
  fun name member => askable name (List.dropLast_subset _ member)

/-- Beside an output that can be asked about, a template can be asked about if its name can. -/
theorem isAskable_templatePlace_iff
    {output : Path}
    {settings : Settings}
    (askable : IsAskable (.ofPlace (outputPlace surroundings output))) :
    IsAskable (.ofPlace (templatePlace surroundings output settings)) ↔
      '\x00' ∉ settings.templateFilename.toList := by
  constructor
  · intro asked
    exact asked _ (by simp [templatePlace, Path.ofPlace])
  · intro noNull name member
    rcases List.mem_append.mp member with inDirectory | isFilename
    · exact isAskable_outputDirectory askable name inDirectory
    · rw [List.mem_singleton.mp isFilename]
      exact noNull

/-! ## The stages -/

/-- What keeps the failures of making sure of a template among those that are reported: looking at
it meets no name that is too long, and where there is a directory for it, its name has no null
character. -/
structure HasTellableTemplate
    (surroundings : Surroundings)
    (output : Path)
    (settings : Settings)
    (tree : Files.Tree) : Prop where
  short :
    '\x00' ∉ settings.templateFilename.toList →
    ¬ tree.MeetsLongName [] (templatePlace surroundings output settings)
  named :
    (tree.ensureDirectories surroundings.workingDirectory
      (.ofPlace (outputDirectory surroundings output))).2 = none →
    '\x00' ∉ settings.templateFilename.toList

/-- Where there is a directory for a template that can be looked at, its name decides. -/
theorem HasTellableTemplate.iff_of_directory
    {output : Path}
    {settings : Settings}
    {tree : Files.Tree}
    (short :
      '\x00' ∉ settings.templateFilename.toList →
      ¬ tree.MeetsLongName [] (templatePlace surroundings output settings))
    (made :
      (tree.ensureDirectories surroundings.workingDirectory
        (.ofPlace (outputDirectory surroundings output))).2 = none) :
    HasTellableTemplate surroundings output settings tree ↔
      '\x00' ∉ settings.templateFilename.toList :=
  ⟨fun tellable => tellable.named made, fun noNull => ⟨short, fun _ => noNull⟩⟩

/-- Making sure of a template fails with a report if it fails among tellable names. -/
theorem ensureTemplate_reports
    {output : Path}
    {settings : Settings}
    (askable : IsAskable (.ofPlace (outputPlace surroundings output))) :
    Ends surroundings state
      (ensureTemplate (.ofPlace (templatePlace surroundings output settings))
        settings.className settings.placeholder)
      (fun _ _ =>
        HasTellableTemplate surroundings output settings state.tree ∧
          '\x00' ∉ settings.templateFilename.toList)
      (fun failure _ =>
        failure.IsReportedIff .template
          (Path.ofPlace (templatePlace surroundings output settings)).text
          (HasTellableTemplate surroundings output settings state.tree)) := by
  have askableIff :
      IsAskable (.ofPlace (templatePlace surroundings output settings)) ↔
        '\x00' ∉ settings.templateFilename.toList :=
    isAskable_templatePlace_iff askable
  unfold ensureTemplate
  refine Ends.exists?_bind ?_ ?_
  · intro found? seen
    have short (noNull : '\x00' ∉ settings.templateFilename.toList) :
        ¬ state.tree.MeetsLongName [] (templatePlace surroundings output settings) :=
      Files.Tree.not_meetsLongName_of_status? (askableIff.mpr noNull) seen
    cases found? with
    | some entry =>
        have noNull := askableIff.mp (Files.Tree.askable_of_status? seen)
        exact Ends.log_bind fun _ _ => Ends.pure ⟨⟨short, fun _ => noNull⟩, noNull⟩
    | none =>
        have making :=
          Files.Tree.ensureDirectories_isMaking state.tree surroundings.workingDirectory
            (.ofPlace (outputDirectory surroundings output))
        have directoryShape :
            (Path.ofPlace (templatePlace surroundings output settings)).parent =
              .ofPlace (outputDirectory surroundings output) := by
          simp [Path.parent, Path.ofPlace, templatePlace]
        dsimp only
        rw [directoryShape]
        refine Ends.bind
          ((Ends.ensureDirectories_making (.ofPlace (outputDirectory surroundings output))
            _).weaken (fun _ _ makes => makes) ?_) ?_
        · rintro failure final ⟨reason, rfl, makes⟩
          rw [makes] at making
          have fits := (making.refused reason rfl).mpr (isAskable_outputDirectory askable)
          have tellable : HasTellableTemplate surroundings output settings state.tree :=
            ⟨short, by simp [makes]⟩
          exact (reportOfFile_isReportedIff _ _ _ reason).congr (iff_of_true fits tellable)
        · intro _ between makes
          have tellableIff :=
            HasTellableTemplate.iff_of_directory short (congrArg Prod.snd makes)
          refine Ends.change_bind ?_ ?_
          · intro written writes
            have noNull := askableIff.mp (Files.Tree.askable_of_writeFile writes)
            exact Ends.log_bind fun _ _ => Ends.pure ⟨tellableIff.mpr noNull, noNull⟩
          · intro reason refused
            refine (reportOfFile_isReportedIff _ _ _ reason).congr ?_
            rw [tellableIff, ← askableIff]
            exact Files.Tree.fitsPath_of_writeFile refused
  · intro reason unseen
    apply file_isReportedIff
    intro tellable
    obtain ⟨asked, meets⟩ := Files.Tree.status?_eq_error_iff.mp ⟨reason, unseen⟩
    exact tellable.short (askableIff.mp asked) meets

/-- Whatever keeps a schema from being read is reported. -/
theorem selectTables_reports
    {schema : Path}
    (askable : IsAskable (.ofPlace (schemaPlace surroundings schema)))
    (settings : Settings) :
    Ends surroundings state
      (selectTables (.ofPlace (schemaPlace surroundings schema)) settings.selection)
      (fun tables final =>
        final.tree = state.tree ∧
          ∃ content,
            state.tree.readFile surroundings.workingDirectory
                (.ofPlace (schemaPlace surroundings schema)) =
              .ok content ∧
            tables = tablesOfSchema settings content)
      (fun failure _ =>
        failure.IsReportOn .schema (Path.ofPlace (schemaPlace surroundings schema)).text ∧
          ∀ content,
            state.tree.readFile surroundings.workingDirectory
                (.ofPlace (schemaPlace surroundings schema)) ≠
              .ok content) := by
  unfold selectTables
  refine Ends.ask_bind ?_ ?_
  · intro content reads
    refine Ends.log_bind fun first firstSame => ?_
    refine Ends.log_bind fun second secondSame => ?_
    refine Ends.log_bind fun third thirdSame => ?_
    refine Ends.log_bind fun last lastSame => ?_
    refine Ends.pure ⟨?_, content, reads, rfl⟩
    rw [lastSame, thirdSame, secondSame, firstSame]
  · intro reason fails
    refine ⟨?_, by simp [fails]⟩
    exact (reportOfFile_isReportedIff _ _ _ reason).reported
      ((Files.Tree.fitsPath_of_readFile fails).mpr askable)

/-- What is wrong with a table is reported, unless no forms can be made of its name. -/
theorem failureOfBlock_isReportOn
    {failure : Methods.BlockFailure}
    (named : ∀ error, failure.fault ≠ .naming error) :
    (failureOfBlock failure).IsReportOn .generation failure.table := by
  obtain ⟨position, table, fault⟩ := failure
  cases fault with
  | naming error =>
      exact absurd rfl (named error)
  | name fault =>
      cases fault <;> exact ⟨_, _, rfl⟩
  | clash owner method =>
      exact ⟨_, _, rfl⟩

/-- The tables of a schema have solid names. -/
theorem isSolid_of_mem_tablesOfSchema
    {settings : Settings}
    {content : List UInt8}
    {table : String}
    (listed : table ∈ tablesOfSchema settings content) :
    Text.IsSolid table :=
  Schema.isSolid_of_mem_tablesOfText (List.mem_of_mem_filter (List.mem_of_mem_filter listed))

/-- Whatever keeps the tables of a schema from having blocks is reported on one of them. -/
theorem blocksOfTables_reports
    (plan : Methods.NamingPlan)
    (settings : Settings)
    (content : List UInt8) :
    Ends surroundings state (blocksOfTables plan (tablesOfSchema settings content))
      (fun blocks final =>
        final.tree = state.tree ∧
          Methods.blocksOf plan (tablesOfSchema settings content) = .ok blocks)
      (fun failure _ =>
        (∃ table, failure.IsReportOn .generation table) ∧
          ∀ blocks, Methods.blocksOf plan (tablesOfSchema settings content) ≠ .ok blocks) := by
  unfold blocksOfTables
  refine Ends.log_bind fun logged same => ?_
  split
  · next blocks made =>
      exact Ends.pure ⟨same, made⟩
  · next cause unmade =>
      have named :=
        Methods.fault_ne_naming_of_blocksFrom
          (fun _ listed => isSolid_of_mem_tablesOfSchema listed) unmade
      exact Ends.throw ⟨⟨cause.table, failureOfBlock_isReportOn named⟩, by simp [unmade]⟩

/-- Whatever keeps a text from being read is reported, unless the bytes are no text. -/
theorem readText_reports
    {path : Path}
    (askable : IsAskable path)
    (kind : ReportKind)
    (message : String) :
    Ends surroundings state (readText path (reportOfFile kind message path))
      (fun _ final =>
        final.tree = state.tree ∧
          ∃ bytes text,
            state.tree.readFile surroundings.workingDirectory path = .ok bytes ∧
              Text.decode bytes = .ok text)
      (fun failure _ =>
        failure.IsReportedIff kind path.text
          (∀ bytes,
            state.tree.readFile surroundings.workingDirectory path = .ok bytes →
            ∃ text, Text.decode bytes = .ok text) ∧
        ∀ bytes text,
          state.tree.readFile surroundings.workingDirectory path = .ok bytes →
          Text.decode bytes ≠ .ok text) := by
  unfold readText
  refine Ends.ask_bind ?_ ?_
  · intro bytes reads
    cases decodes : Text.decode bytes with
    | ok text =>
        exact Ends.pure ⟨rfl, bytes, text, reads, decodes⟩
    | error malformed =>
        refine Ends.throw ⟨⟨?_, fun _ _ same => by cases same⟩, ?_⟩
        · intro allText
          obtain ⟨text, decodesToo⟩ := allText bytes reads
          rw [decodes] at decodesToo
          cases decodesToo
        · intro other text readsOther
          rw [reads] at readsOther
          cases readsOther
          simp [decodes]
  · intro reason fails
    refine ⟨(reportOfFile_isReportedIff _ _ path reason).congr ?_, by simp [fails]⟩
    exact iff_of_true ((Files.Tree.fitsPath_of_readFile fails).mpr askable) (by simp [fails])

/-- Whatever keeps a template from being read is reported, unless its bytes are no text. -/
theorem readTemplate_reports
    {path : Path}
    (askable : IsAskable path)
    (placeholder : String) :
    Ends surroundings state (readTemplate path placeholder)
      (fun _ final =>
        final.tree = state.tree ∧
          ∃ bytes text,
            state.tree.readFile surroundings.workingDirectory path = .ok bytes ∧
              Text.decode bytes = .ok text)
      (fun failure _ =>
        failure.IsReportedIff .template path.text
          (∀ bytes,
            state.tree.readFile surroundings.workingDirectory path = .ok bytes →
            ∃ text, Text.decode bytes = .ok text) ∧
        ∀ bytes text,
          state.tree.readFile surroundings.workingDirectory path = .ok bytes →
          Text.decode bytes ≠ .ok text) := by
  unfold readTemplate
  refine (readText_reports askable .template _).bind ?_
  rintro _ between ⟨same, read⟩
  exact Ends.log_bind fun logged loggedSame => Ends.pure ⟨loggedSame.trans same, read⟩

/-- The way to a file in a directory leads through the directory. -/
theorem exists_directory_of_readFile
    {tree : Files.Tree}
    {directory : Place}
    {filename : String}
    {bytes : List UInt8}
    (reads :
      tree.readFile surroundings.workingDirectory (.ofPlace (directory ++ [filename])) =
        .ok bytes) :
    ∃ place,
      tree.reachFrom [] directory = .ok place ∧ tree.get? place = some .directory := by
  unfold Files.Tree.readFile at reads
  cases reaches :
      tree.reach surroundings.workingDirectory (.ofPlace (directory ++ [filename])) with
  | error failure =>
      rw [reaches] at reads
      cases reads
  | ok file =>
      have along : tree.reachFrom [] (directory ++ [filename]) = .ok file :=
        (Files.Tree.reach_eq_ok_iff_reachFrom.mp reaches).2
      rw [Files.Tree.reachFrom_append] at along
      cases below : tree.reachFrom [] directory with
      | error fault =>
          rw [below] at along
          cases along
      | ok place =>
          refine ⟨place, rfl, ?_⟩
          rw [below] at along
          cases found : tree.get? place with
          | none =>
              simp [Except.bind, Files.Tree.reachFrom, found] at along
          | some entry =>
              cases entry with
              | file content =>
                  simp [Except.bind, Files.Tree.reachFrom, found] at along
              | directory =>
                  rfl

/-- Where a template beside it is read, the names of an output are plain if its own name is not too
long. -/
theorem hasPlainNames_iff_of_template
    {tree : Files.Tree}
    {output : Path}
    {settings : Settings}
    {bytes : List UInt8}
    (askable : IsAskable (.ofPlace (outputPlace surroundings output)))
    (reads :
      tree.readFile surroundings.workingDirectory
          (.ofPlace (templatePlace surroundings output settings)) =
        .ok bytes) :
    HasPlainNames tree surroundings.workingDirectory (.ofPlace (outputPlace surroundings output)) ↔
      Files.Tree.isTooLong (Path.ofPlace (outputPlace surroundings output)).name = false := by
  obtain ⟨place, reaches, isDirectory⟩ := exists_directory_of_readFile reads
  have seen :
      tree.status? surroundings.workingDirectory
          (.ofPlace (outputDirectory surroundings output)) =
        .ok (some .directory) := by
    have led :
        tree.reach surroundings.workingDirectory
            (.ofPlace (outputDirectory surroundings output)) =
          .ok place :=
      Files.Tree.reach_eq_ok_iff_reachFrom.mpr ⟨isAskable_outputDirectory askable, reaches⟩
    rw [Files.Tree.status?, led]
    exact congrArg Except.ok isDirectory
  have prepared :
      withDirectory? tree surroundings.workingDirectory
          (.ofPlace (outputDirectory surroundings output)) =
        some tree := by
    rw [withDirectory?, seen]
  refine (hasPlainNames_iff seen prepared).trans ?_
  rw [and_iff_right askable, ← Files.Tree.reachFrom_eq_nameTooLong_iff]
  change ¬ tree.reachFrom [] (outputPlace surroundings output) = _ ↔ _
  rcases List.eq_nil_or_concat (outputPlace surroundings output) with isRoot | ⟨front, last, shape⟩
  · rw [isRoot]
    exact iff_of_true (by simp [Files.Tree.reachFrom]) (by decide)
  · rw [List.concat_eq_append] at shape
    have isFront : outputDirectory surroundings output = front := by
      rw [outputDirectory, shape, List.dropLast_concat]
    have isLast : (Path.ofPlace (front ++ [last])).name = last := by
      simp [Path.name, Path.ofPlace]
    rw [isFront] at reaches
    rw [shape, isLast, Files.Tree.reachFrom_append, reaches]
    by_cases isDots : last = ".."
    · rw [isDots]
      exact iff_of_true (by simp [Except.bind, Files.Tree.reachFrom, isDirectory]) (by decide)
    · cases long : Files.Tree.isTooLong last <;>
        simp [Except.bind, Files.Tree.reachFrom, isDirectory, isDots, long]

/-! ## The whole generation -/

/-- What keeps the failures of a generation that has its template among those that are reported:
where the tables of the schema have blocks, the template is a text and the name of the output is not
too long. -/
structure HasTellableContents
    (surroundings : Surroundings)
    (schema output : Path)
    (settings : Settings)
    (tree : Files.Tree) : Prop where
  text :
    ∀ content blocks bytes,
      tree.readFile surroundings.workingDirectory
          (.ofPlace (schemaPlace surroundings schema)) =
        .ok content →
      Methods.blocksOf (namingPlan settings) (tablesOfSchema settings content) = .ok blocks →
      tree.readFile surroundings.workingDirectory
          (.ofPlace (templatePlace surroundings output settings)) =
        .ok bytes →
      ∃ text, Text.decode bytes = .ok text
  short :
    ∀ content blocks bytes text,
      tree.readFile surroundings.workingDirectory
          (.ofPlace (schemaPlace surroundings schema)) =
        .ok content →
      Methods.blocksOf (namingPlan settings) (tablesOfSchema settings content) = .ok blocks →
      tree.readFile surroundings.workingDirectory
          (.ofPlace (templatePlace surroundings output settings)) =
        .ok bytes →
      Text.decode bytes = .ok text →
      Files.Tree.isTooLong (Path.ofPlace (outputPlace surroundings output)).name = false

namespace HasTellableContents

variable {schema output : Path}
variable {settings : Settings}
variable {tree : Files.Tree}
variable {content bytes : List UInt8}
variable {blocks : List MethodBlock}

/-- Without a schema nothing else is looked at. -/
theorem of_no_schema
    (unread :
      ∀ content,
        tree.readFile surroundings.workingDirectory
            (.ofPlace (schemaPlace surroundings schema)) ≠
          .ok content) :
    HasTellableContents surroundings schema output settings tree where
  text content _ _ reads := absurd reads (unread content)
  short content _ _ _ reads := absurd reads (unread content)

/-- Where the tables have no blocks, nothing else is looked at either. -/
theorem of_no_blocks
    (reads :
      tree.readFile surroundings.workingDirectory
          (.ofPlace (schemaPlace surroundings schema)) =
        .ok content)
    (unmade :
      ∀ blocks,
        Methods.blocksOf (namingPlan settings) (tablesOfSchema settings content) ≠ .ok blocks) :
    HasTellableContents surroundings schema output settings tree := by
  constructor
  · intro other blocks bytes readsToo made
    rw [reads] at readsToo
    cases readsToo
    exact absurd made (unmade blocks)
  · intro other blocks bytes text readsToo made
    rw [reads] at readsToo
    cases readsToo
    exact absurd made (unmade blocks)

/-- Where the tables have blocks, the template and the name of the output decide. -/
theorem iff_of_blocks
    (reads :
      tree.readFile surroundings.workingDirectory
          (.ofPlace (schemaPlace surroundings schema)) =
        .ok content)
    (made :
      Methods.blocksOf (namingPlan settings) (tablesOfSchema settings content) = .ok blocks) :
    HasTellableContents surroundings schema output settings tree ↔
      ∀ bytes,
        tree.readFile surroundings.workingDirectory
            (.ofPlace (templatePlace surroundings output settings)) =
          .ok bytes →
        ∃ text,
          Text.decode bytes = .ok text ∧
            Files.Tree.isTooLong (Path.ofPlace (outputPlace surroundings output)).name =
              false := by
  constructor
  · intro tellable bytes readsTemplate
    obtain ⟨text, decodes⟩ := tellable.text content blocks bytes reads made readsTemplate
    exact ⟨text, decodes, tellable.short content blocks bytes text reads made readsTemplate decodes⟩
  · intro decodable
    constructor
    · intro _ _ bytes _ _ readsTemplate
      obtain ⟨text, decodes, -⟩ := decodable bytes readsTemplate
      exact ⟨text, decodes⟩
    · intro _ _ bytes _ _ _ readsTemplate _
      obtain ⟨-, -, short⟩ := decodable bytes readsTemplate
      exact short

/-- Where the tables have blocks and the template is a text, the names on the way to the output
decide. -/
theorem iff_hasPlainNames
    {text : String}
    (askable : IsAskable (.ofPlace (outputPlace surroundings output)))
    (reads :
      tree.readFile surroundings.workingDirectory
          (.ofPlace (schemaPlace surroundings schema)) =
        .ok content)
    (made :
      Methods.blocksOf (namingPlan settings) (tablesOfSchema settings content) = .ok blocks)
    (readsTemplate :
      tree.readFile surroundings.workingDirectory
          (.ofPlace (templatePlace surroundings output settings)) =
        .ok bytes)
    (decodes : Text.decode bytes = .ok text) :
    HasTellableContents surroundings schema output settings tree ↔
      HasPlainNames tree surroundings.workingDirectory
        (.ofPlace (outputPlace surroundings output)) := by
  rw [iff_of_blocks reads made, hasPlainNames_iff_of_template askable readsTemplate]
  constructor
  · intro decodable
    obtain ⟨-, -, short⟩ := decodable bytes readsTemplate
    exact short
  · intro short other readsToo
    rw [readsTemplate] at readsToo
    cases readsToo
    exact ⟨text, decodes, short⟩

end HasTellableContents

/-- What keeps the failures of a generation from its template among those that are reported. -/
structure HasTellableFiles
    (surroundings : Surroundings)
    (schema output : Path)
    (settings : Settings)
    (tree : Files.Tree) : Prop where
  template : HasTellableTemplate surroundings output settings tree
  contents :
    ∀ created prepared,
      perform
          (ensureTemplate (.ofPlace (templatePlace surroundings output settings))
            settings.className settings.placeholder)
          surroundings tree =
        (.ok created, prepared) →
      HasTellableContents surroundings schema output settings prepared.tree

/-- A generation from its template fails with a report if it fails with tellable files. -/
theorem generateFrom_reports
    {schema output : Path}
    {settings : Settings}
    {tree : Files.Tree}
    (schemaAskable : IsAskable (.ofPlace (schemaPlace surroundings schema)))
    (outputAskable : IsAskable (.ofPlace (outputPlace surroundings output))) :
    Ends surroundings ⟨tree, []⟩
      (generateFrom (.ofPlace (templatePlace surroundings output settings))
        (.ofPlace (schemaPlace surroundings schema))
        (.ofPlace (outputPlace surroundings output)) settings)
      (fun _ _ => HasTellableFiles surroundings schema output settings tree)
      (fun failure _ =>
        IsGenerationReport surroundings schema output settings failure ↔
          HasTellableFiles surroundings schema output settings tree) := by
  unfold generateFrom
  refine Ends.bind
    ((ensureTemplate_reports outputAskable).with_outcome.weaken
      (fun _ _ ensured => ensured) ?_) ?_
  · rintro failure final ⟨fails, told⟩
    rw [isGenerationReport_iff told .template]
    refine ⟨fun template => ⟨template, ?_⟩, fun tellable => tellable.template⟩
    intro created prepared succeeds
    rw [perform_eq_outcome, fails] at succeeds
    cases succeeds
  rintro created prepared ⟨ensured, template, filenameAskable⟩
  have tellableIff :
      HasTellableFiles surroundings schema output settings tree ↔
        HasTellableContents surroundings schema output settings prepared.tree := by
    refine ⟨fun tellable => tellable.contents created prepared ensured, fun contents =>
      ⟨template, ?_⟩⟩
    intro _ _ ensuredToo
    rw [perform_eq_outcome, ensured] at ensuredToo
    cases ensuredToo
    exact contents
  rw [tellableIff]
  have templateAskable := (isAskable_templatePlace_iff outputAskable).mpr filenameAskable
  refine Ends.bind
    ((selectTables_reports schemaAskable settings).weaken
      (fun _ _ selected => selected) ?_) ?_
  · rintro failure final ⟨reported, unread⟩
    exact iff_of_true (.schema reported) (.of_no_schema unread)
  rintro _ selected ⟨selectedSame, content, schemaReads, rfl⟩
  refine (warnOfNoTables_ends _).bind fun _ warned warnedSame => ?_
  refine Ends.bind
    ((blocksOfTables_reports _ settings content).weaken (fun _ _ made => made) ?_) ?_
  · rintro failure final ⟨⟨table, reported⟩, unmade⟩
    exact iff_of_true (.table table reported) (.of_no_blocks schemaReads unmade)
  rintro blocks blocked ⟨blockedSame, made⟩
  have blockedTree : blocked.tree = prepared.tree :=
    blockedSame.trans (warnedSame.trans selectedSame)
  refine Ends.bind
    ((readTemplate_reports templateAskable settings.placeholder).weaken
      (fun _ _ read => read) ?_) ?_
  · rintro failure final ⟨told, undecodable⟩
    rw [blockedTree] at told undecodable
    rw [HasTellableContents.iff_of_blocks schemaReads made]
    refine (isGenerationReport_iff told .template).trans ?_
    refine forall₂_congr fun bytes reads => ?_
    constructor
    · rintro ⟨text, decodes⟩
      exact absurd decodes (undecodable bytes text reads)
    · rintro ⟨text, decodes, -⟩
      exact ⟨text, decodes⟩
  rintro template reading ⟨readingSame, bytes, text, templateReads, decodes⟩
  rw [blockedTree] at readingSame templateReads
  refine (finishModule_ends settings _ _).bind ?_
  rintro _ finished ⟨finishedSame, rfl⟩
  have finishedTree : finished.tree = prepared.tree :=
    finishedSame.trans readingSame
  rw [HasTellableContents.iff_hasPlainNames outputAskable schemaReads made templateReads decodes,
    ← finishedTree]
  refine Ends.bind
    ((writeOutput_ends_along _ _ _).weaken (fun _ _ written => written) ?_) ?_
  · rintro failure final ⟨-, told⟩
    exact isGenerationReport_iff told .output
  · rintro _ written ⟨-, names⟩
    exact Ends.log_bind fun _ _ => Ends.pure names

/-- What keeps every failure of a generation among those that are reported: no null characters in
the paths, and tellable files, if the output does not clash with the template. -/
structure IsTellable
    (surroundings : Surroundings)
    (schema output : Path)
    (settings : Settings)
    (tree : Files.Tree) : Prop where
  schema_askable : IsAskable schema
  output_askable : IsAskable output
  files :
    templatePlace surroundings output settings ≠ outputPlace surroundings output →
    HasTellableFiles surroundings schema output settings tree

/-- A path is resolved if it can be asked about; else the failure is not reported. -/
theorem resolve_reports
    (path : Path) :
    Ends surroundings state (resolve path)
      (fun resolved final =>
        final = state ∧
          resolved = .ofPlace (path.placeFrom surroundings.workingDirectory) ∧
          IsAskable path)
      (fun failure _ => (∀ told, failure ≠ .report told) ∧ ¬ IsAskable path) := by
  unfold resolve
  split
  · next withNull =>
      refine Ends.throw ⟨?_, by simpa [IsAskable] using withNull⟩
      intro told same
      cases same
  · next noNull =>
      refine Ends.read (Ends.pure ⟨rfl, rfl, ?_⟩)
      simpa [IsAskable] using noNull

theorem generate_reports
    {schema output : Path}
    {settings : Settings}
    {tree : Files.Tree}
    (here : ∀ name ∈ surroundings.workingDirectory, '\x00' ∉ name.toList)
    (validated : settings.IsValidated) :
    Ends surroundings ⟨tree, []⟩ (generate schema output settings)
      (fun _ _ => IsTellable surroundings schema output settings tree)
      (fun failure _ =>
        IsGenerationReport surroundings schema output settings failure ↔
          IsTellable surroundings schema output settings tree) := by
  have unreported {failure : Failure} (noReport : ∀ told, failure ≠ .report told) :
      ¬ IsGenerationReport surroundings schema output settings failure := by
    intro reported
    obtain ⟨told, same⟩ := reported.exists_report
    exact noReport told same
  unfold generate
  refine Ends.bind ((resolve_reports schema).weaken (fun _ _ resolved => resolved) ?_) ?_
  · rintro failure _ ⟨noReport, unaskable⟩
    exact iff_of_false (unreported noReport) fun tellable => unaskable tellable.schema_askable
  rintro _ _ ⟨rfl, rfl, schemaAskable⟩
  refine Ends.bind ((resolve_reports output).weaken (fun _ _ resolved => resolved) ?_) ?_
  · rintro failure _ ⟨noReport, unaskable⟩
    exact iff_of_false (unreported noReport) fun tellable => unaskable tellable.output_askable
  rintro _ _ ⟨rfl, rfl, outputAskable⟩
  have tellableIff :
      IsTellable surroundings schema output settings tree ↔
        (templatePlace surroundings output settings ≠ outputPlace surroundings output →
          HasTellableFiles surroundings schema output settings tree) :=
    ⟨fun tellable => tellable.files, fun files => ⟨schemaAskable, outputAskable, files⟩⟩
  rw [tellableIff]
  dsimp only
  rw [templatePath_of_isValidated validated surroundings]
  split
  · next same =>
      have samePlace := congrArg Path.names same
      exact Ends.throw
        (iff_of_true (.clash samePlace rfl) fun apart => absurd samePlace apart)
  · next apart =>
      have apartPlaces :
          templatePlace surroundings output settings ≠ outputPlace surroundings output :=
        fun same => apart (congrArg Path.ofPlace same)
      rw [forall_prop_of_true apartPlaces]
      exact generateFrom_reports (isAskable_placeFrom here schemaAskable)
        (isAskable_placeFrom here outputAskable)

/-- What is wrong with a generation is always told in a report of it, with these exceptions: a null
character in a path or in the name of the template, a look at the template or the output that meets
a name that is too long, and a template that is no text. -/
theorem generation_reports_every_failure_iff
    {settings : Settings}
    (here : ∀ name ∈ surroundings.workingDirectory, '\x00' ∉ name.toList)
    (validated : settings.IsValidated)
    (schema output : Path)
    (tree : Files.Tree) :
    (∀ failure final,
      perform (generate schema output settings) surroundings tree = (.error failure, final) →
      IsGenerationReport surroundings schema output settings failure) ↔
      IsTellable surroundings schema output settings tree := by
  have ends :
      Ends surroundings ⟨tree, []⟩ (generate schema output settings)
        (fun _ _ => IsTellable surroundings schema output settings tree)
        (fun failure _ =>
          IsGenerationReport surroundings schema output settings failure ↔
            IsTellable surroundings schema output settings tree) :=
    generate_reports here validated
  cases performed : perform (generate schema output settings) surroundings tree with
  | mk result final =>
      rw [perform_eq_outcome] at performed
      cases result with
      | ok generated =>
          refine iff_of_true ?_ (ends.of_ok performed)
          intro failure final fails
          cases fails
      | error failure =>
          rw [← ends.of_error performed]
          constructor
          · intro reported
            exact reported failure final rfl
          · rintro reported _ _ ⟨⟩
            exact reported

theorem generation_reports_every_failure_iff_of_one_table :
    (∀ failure final,
      perform (generate (.ofText "s.ts") (.ofText "api.py") .standard) ⟨["w"], .works⟩
          (treeWithSchema "type D={Tables:{a:{}}}") =
        (.error failure, final) →
      IsGenerationReport ⟨["w"], .works⟩ (.ofText "s.ts") (.ofText "api.py") .standard failure) ↔
      IsTellable ⟨["w"], .works⟩ (.ofText "s.ts") (.ofText "api.py") .standard
        (treeWithSchema "type D={Tables:{a:{}}}") :=
  generation_reports_every_failure_iff (by decide) Settings.standard_isValidated _ _ _

/-- A directory `w` with a template that is no text, and a schema. -/
def treeWithBrokenTemplate : Files.Tree :=
  ⟨[(["w"], .directory),
    (["w", "supabase_api_template.py"], .file [255]),
    (["w", "s.ts"], .file (Text.encode "type D={}"))]⟩

/-- A template that is no text makes a generation fail without a report. -/
theorem generation_with_broken_template_unreported :
    ∃ failure final,
      perform (generate (.ofText "s.ts") (.ofText "api.py") .standard) ⟨["w"], .works⟩
          treeWithBrokenTemplate =
        (.error failure, final) ∧
      ¬ IsGenerationReport ⟨["w"], .works⟩ (.ofText "s.ts") (.ofText "api.py") .standard
        failure := by
  have unreported :
      (match
        (perform (generate (.ofText "s.ts") (.ofText "api.py") .standard) ⟨["w"], .works⟩
          treeWithBrokenTemplate).1 with
        | .error (.undecodable _) => true
        | _ => false) = true := by
    decide +kernel
  cases performed :
      perform (generate (.ofText "s.ts") (.ofText "api.py") .standard) ⟨["w"], .works⟩
        treeWithBrokenTemplate with
  | mk result final =>
      rw [performed] at unreported
      split at unreported
      · next error isError =>
          cases isError
          refine ⟨_, final, rfl, fun reported => ?_⟩
          obtain ⟨told, same⟩ := reported.exists_report
          cases same
      · cases unreported

end Tablewright.Run
