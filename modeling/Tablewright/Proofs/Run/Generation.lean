import Tablewright.Proofs.Run.Output
import Tablewright.Proofs.Run.Template
import Tablewright.Proofs.Settings.Rules
import Tablewright.Run.Generation

/-!
# The stages of a generation

A generation makes sure of its template, reads the schema and the template, and writes the output.
Every stage before the last one leaves alone what is there, so a generation that fails has changed
no file, and one that succeeds has changed its output only.
-/

namespace Tablewright.Run

open Files (Entry Path Place)
open Methods (MethodBlock)

/-- The place of a schema. -/
def schemaPlace
    (surroundings : Surroundings)
    (schema : Path) : Place :=
  schema.placeFrom surroundings.workingDirectory

/-- The place of an output. -/
def outputPlace
    (surroundings : Surroundings)
    (output : Path) : Place :=
  output.placeFrom surroundings.workingDirectory

/-- The directory of an output, which is that of its template too. -/
def outputDirectory
    (surroundings : Surroundings)
    (output : Path) : Place :=
  (outputPlace surroundings output).dropLast

/-- The place of the template that goes with an output. -/
def templatePlace
    (surroundings : Surroundings)
    (output : Path)
    (settings : Settings) : Place :=
  outputDirectory surroundings output ++ [settings.templateFilename]

/-- What a generation may add elsewhere than at its output: the base template, and directories on
the way to the output. -/
def IsAddition
    (surroundings : Surroundings)
    (output : Path)
    (settings : Settings) : Place → Entry → Prop :=
  IsTemplateAddition (outputDirectory surroundings output) settings.templateFilename
    settings.className settings.placeholder

/-- The tables that settings select from the content of a schema file. -/
def tablesOfSchema
    (settings : Settings)
    (content : List UInt8) : List String :=
  settings.selection.apply (Schema.tablesOfText (Text.decodeLoosely content))

/-- The text of a module: a template with method blocks at its first marker. -/
def moduleText
    (settings : Settings)
    (template : String)
    (blocks : List MethodBlock) : String :=
  Text.replaceFirst settings.placeholder (MethodBlock.joinCode blocks) template

/-- A text as it is written, and whether it is laid out. -/
def finish
    (settings : Settings)
    (text : String) : String × Bool :=
  if settings.formatCode then
    match Layout.format text with
    | .ok formatted => (formatted, true)
    | .error _ => (text, false)
  else (text, false)

/-- Settings that are valid put the template beside the output. -/
theorem templatePath_of_isValidated
    {settings : Settings}
    (validated : settings.IsValidated)
    (surroundings : Surroundings)
    (output : Path) :
    Files.templatePath (.ofPlace (output.placeFrom surroundings.workingDirectory))
        settings.templateFilename =
      .ofPlace (templatePlace surroundings output settings) := by
  obtain ⟨nonempty, bare⟩ := validated.templateFilename
  exact Files.templatePath_ofPlace nonempty bare _

/-- Resolving a path leaves the state alone. -/
theorem resolve_ends
    {surroundings : Surroundings}
    {state : State}
    (path : Path) :
    Ends surroundings state (resolve path)
      (fun resolved final =>
        final = state ∧
          resolved = .ofPlace (path.placeFrom surroundings.workingDirectory))
      (fun _ final => final = state) := by
  unfold resolve
  split
  · exact Ends.throw rfl
  · exact Ends.read (Ends.pure ⟨rfl, rfl⟩)

/-- Selecting the tables of a schema reads its file and leaves the tree alone. -/
theorem selectTables_ends
    {surroundings : Surroundings}
    {state : State}
    {place : Place}
    (plain : place.IsPlain)
    (settings : Settings) :
    Ends surroundings state (selectTables (.ofPlace place) settings.selection)
      (fun tables final =>
        final.tree = state.tree ∧
          ∃ content,
            state.tree.get? place = some (.file content) ∧
              tables = tablesOfSchema settings content)
      (fun _ final => final.tree = state.tree) := by
  unfold selectTables
  refine Ends.ask_bind ?_ (fun _ _ => rfl)
  intro content reads
  obtain ⟨-, found⟩ := (Files.Tree.readFile_eq_ok_iff plain).mp reads
  refine Ends.log_bind fun first firstSame => ?_
  refine Ends.log_bind fun second secondSame => ?_
  refine Ends.log_bind fun third thirdSame => ?_
  refine Ends.log_bind fun last lastSame => ?_
  refine Ends.pure ⟨?_, content, found, rfl⟩
  rw [lastSame, thirdSame, secondSame, firstSame]

/-- Warning of a schema without tables leaves the tree alone. -/
theorem warnOfNoTables_ends
    {surroundings : Surroundings}
    {state : State}
    {failing : Failure → State → Prop}
    (tables : List String) :
    Ends surroundings state (warnOfNoTables tables)
      (fun _ final => final.tree = state.tree)
      failing := by
  unfold warnOfNoTables
  split
  · exact Ends.log rfl
  · exact Ends.pure rfl

/-- Making method blocks leaves the tree alone. -/
theorem blocksOfTables_ends
    {surroundings : Surroundings}
    {state : State}
    (plan : Methods.NamingPlan)
    (tables : List String) :
    Ends surroundings state (blocksOfTables plan tables)
      (fun blocks final =>
        final.tree = state.tree ∧ Methods.blocksOf plan tables = .ok blocks)
      (fun _ final => final.tree = state.tree) := by
  unfold blocksOfTables
  refine Ends.log_bind fun logged same => ?_
  split
  · next blocks made =>
      exact Ends.pure ⟨same, made⟩
  · exact Ends.throw same

/-- Finishing a module leaves the tree alone. -/
theorem finishModule_ends
    {surroundings : Surroundings}
    {state : State}
    {failing : Failure → State → Prop}
    (settings : Settings)
    (path : Path)
    (text : String) :
    Ends surroundings state (finishModule settings path text)
      (fun finished final =>
        final.tree = state.tree ∧ finished = finish settings text)
      failing := by
  unfold finishModule finish
  split
  · unfold layOut
    cases Layout.format text with
    | ok formatted =>
        exact Ends.log_bind fun logged same => Ends.pure ⟨same, rfl⟩
    | error fault =>
        exact Ends.log_bind fun logged same => Ends.pure ⟨same, rfl⟩
  · exact Ends.pure ⟨rfl, rfl⟩

/-- What the stages of a successful generation found and left behind: the tree with its template,
the content of the schema, the method blocks, the text of the template, and the final tree. -/
structure Stages
    (surroundings : Surroundings)
    (schema output : Path)
    (settings : Settings)
    (tree prepared : Files.Tree)
    (content : List UInt8)
    (blocks : List MethodBlock)
    (template : String)
    (generated : Generated)
    (final : State) : Prop where
  added : tree.Grows prepared (IsAddition surroundings output settings)
  created :
    generated.templateCreated = true →
      tree.get? (templatePlace surroundings output settings) = none ∧
        prepared.get? (templatePlace surroundings output settings) =
          some (baseFile settings.className settings.placeholder)
  kept :
    generated.templateCreated = false →
      prepared = tree
  schemaFound :
    prepared.get? (schemaPlace surroundings schema) = some (.file content)
  blocksMade :
    Methods.blocksOf (namingPlan settings) (tablesOfSchema settings content) = .ok blocks
  named : settings.templateFilename ≠ ".."
  templateRead :
    Reads prepared (templatePlace surroundings output settings) template
  apart :
    templatePlace surroundings output settings ≠ outputPlace surroundings output
  written :
    Written prepared (outputPlace surroundings output)
      (finish settings (moduleText settings template blocks)).1 final.tree
  result :
    generated =
      { tables := tablesOfSchema settings content
        outputPath := .ofPlace (outputPlace surroundings output)
        templatePath := .ofPlace (templatePlace surroundings output settings)
        templateCreated := generated.templateCreated
        isFormatted := (finish settings (moduleText settings template blocks)).2
        lineCount :=
          Text.countLines (finish settings (moduleText settings template blocks)).1
        methodCount := (blocks.flatMap MethodBlock.forwarders).length }

/-- A generation from a template that succeeds went through all of its stages. One that fails has
added a template at most, with directories on the way to it. -/
theorem generateFrom_ends
    {surroundings : Surroundings}
    {state : State}
    {settings : Settings}
    (plain : surroundings.workingDirectory.IsPlain)
    (sound : state.tree.IsSound)
    (schema output : Path)
    (apart :
      templatePlace surroundings output settings ≠ outputPlace surroundings output) :
    Ends surroundings state
      (generateFrom (.ofPlace (templatePlace surroundings output settings))
        (.ofPlace (schemaPlace surroundings schema))
        (.ofPlace (outputPlace surroundings output)) settings)
      (fun generated final =>
        ∃ prepared content blocks template,
          Stages surroundings schema output settings state.tree prepared content blocks
            template generated final)
      (fun _ final =>
        state.tree.Grows final.tree (IsAddition surroundings output settings)) := by
  have schemaPlain : (schemaPlace surroundings schema).IsPlain :=
    Path.placeFrom_isPlain plain schema
  have outputPlain : (outputPlace surroundings output).IsPlain :=
    Path.placeFrom_isPlain plain output
  unfold generateFrom
  refine (ensureTemplate_ends outputPlain.dropLast sound settings.templateFilename
    settings.className settings.placeholder).bind ?_
  rintro created prepared ⟨added, whenCreated, whenKept⟩
  have unchanged :
      ∀ final : State,
        final.tree = prepared.tree →
        state.tree.Grows final.tree (IsAddition surroundings output settings) := by
    intro final same
    rw [same]
    exact added
  refine Ends.bind
    ((selectTables_ends schemaPlain settings).weaken
      (fun _ _ selected => selected)
      (fun _ final same => unchanged final same)) ?_
  rintro _ selected ⟨selectedSame, content, schemaFound, rfl⟩
  refine (warnOfNoTables_ends _).bind fun _ warned warnedSame => ?_
  have warnedTree : warned.tree = prepared.tree :=
    warnedSame.trans selectedSame
  refine Ends.bind
    ((blocksOfTables_ends _ _).weaken
      (fun _ _ made => made)
      (fun _ final same => unchanged final (same.trans warnedTree))) ?_
  rintro blocks blocked ⟨blockedSame, blocksMade⟩
  have blockedTree : blocked.tree = prepared.tree :=
    blockedSame.trans warnedTree
  refine Ends.bind
    ((readTemplate_ends outputPlain.dropLast settings.templateFilename
        settings.placeholder).weaken
      (fun _ _ read => read)
      (fun _ final same => unchanged final (same.trans blockedTree))) ?_
  rintro template reading ⟨readingSame, named, templateRead⟩
  refine (finishModule_ends settings _ _).bind ?_
  rintro _ finished ⟨finishedSame, rfl⟩
  have finishedTree : finished.tree = prepared.tree :=
    finishedSame.trans (readingSame.trans blockedTree)
  have finishedSound : finished.tree.IsSound := by
    rw [finishedTree]
    exact added.sound
  refine Ends.bind
    ((writeOutput_ends outputPlain finishedSound _ _).weaken
      (fun _ _ written => written) ?_) ?_
  · intro _ final unwritten
    rw [finishedTree] at unwritten
    exact added.trans (unwritten.mono fun _ _ isWay => Or.inl isWay)
  · intro _ written writes
    refine Ends.log_bind fun final same => Ends.pure ?_
    rw [finishedTree] at writes
    refine ⟨prepared.tree, content, blocks, template, ?_⟩
    exact
      { added := added
        created := whenCreated
        kept := whenKept
        schemaFound := schemaFound
        blocksMade := blocksMade
        named := named
        templateRead := by
          rw [blockedTree] at templateRead
          exact templateRead
        apart := apart
        written := by
          rw [same]
          exact writes
        result := rfl }

/-- A generation that succeeds went through all of its stages. One that fails has added a template
at most, with directories on the way to it. -/
theorem generate_ends
    {surroundings : Surroundings}
    {state : State}
    {settings : Settings}
    (plain : surroundings.workingDirectory.IsPlain)
    (sound : state.tree.IsSound)
    (validated : settings.IsValidated)
    (schema output : Path) :
    Ends surroundings state (generate schema output settings)
      (fun generated final =>
        ∃ prepared content blocks template,
          Stages surroundings schema output settings state.tree prepared content blocks
            template generated final)
      (fun _ final =>
        state.tree.Grows final.tree (IsAddition surroundings output settings)) := by
  have untouched :
      ∀ final : State,
        final = state →
        state.tree.Grows final.tree (IsAddition surroundings output settings) := by
    intro final same
    rw [same]
    exact Files.Tree.Grows.refl sound _
  unfold generate
  refine Ends.bind
    ((resolve_ends schema).weaken
      (fun _ _ resolved => resolved) (fun _ final same => untouched final same)) ?_
  rintro _ between ⟨same, rfl⟩
  subst between
  refine Ends.bind
    ((resolve_ends output).weaken
      (fun _ _ resolved => resolved) (fun _ final same => untouched final same)) ?_
  rintro _ between ⟨same, rfl⟩
  subst between
  dsimp only
  rw [templatePath_of_isValidated validated surroundings]
  split
  · exact Ends.throw (untouched state rfl)
  · next apart =>
      apply generateFrom_ends plain sound schema output
      intro same
      apply apart
      rw [same]
      rfl

end Tablewright.Run
