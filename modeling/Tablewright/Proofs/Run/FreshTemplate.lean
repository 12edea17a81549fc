import Tablewright.Proofs.Run.Markers
import Tablewright.Proofs.Settings.Rules
import Tablewright.Proofs.Template.Marker
import Tablewright.Proofs.Text.Solid

/-!
# A template that has just been written

A run that adds a template reads it back as it was written, up to line ends. Whether methods find
their marker in it is then a matter of the marker alone: the checks of settings let markers pass that
are not read back, and markers that the template holds elsewhere.
-/

namespace Tablewright.Run

open Files (Path)
open Template (HasOwnMarkerLine HasUsableMarker IsHarmless readBase)

/-- A template that is new is the base template, wherever the path leads. -/
theorem readFile_of_ensureTemplate
    {surroundings : Surroundings}
    {state : State}
    (path : Path)
    (className placeholder : String) :
    Ends surroundings state (ensureTemplate path className placeholder)
      (fun created final =>
        created = true →
        final.tree.readFile surroundings.workingDirectory path =
          .ok (Text.encode (Template.base className placeholder)))
      (fun _ _ => True) := by
  unfold ensureTemplate
  refine Ends.exists?_bind ?_ (fun _ _ => trivial)
  intro found? _
  split
  · refine Ends.log_bind fun logged _ => Ends.pure ?_
    intro impossible
    cases impossible
  · have made :
        Ends surroundings state
          (ensureDirectories path.parent
            (reportOfFile .template "Could not write template" path))
          (fun _ _ => True)
          (fun _ _ => True) :=
      Ends.of_forall (fun _ _ => trivial) (fun _ _ => trivial)
    refine made.bind fun _ between _ => ?_
    refine Ends.change_bind ?_ (fun _ _ => trivial)
    intro written writes
    refine Ends.log_bind fun logged same => Ends.pure fun _ => ?_
    rw [same]
    exact Files.Tree.readFile_of_writeFile writes

theorem isHarmless_of_isValidated
    {settings : Settings}
    (validated : settings.IsValidated) :
    IsHarmless settings.className.toList where
  noReturn := Text.not_mem_of_isDefinable validated.className (by decide +kernel) (by decide +kernel)
  noSign := Text.not_mem_of_isDefinable validated.className (by decide +kernel) (by decide +kernel)

/-- A template that has just been written for validated settings is read without a change of the
tree. Nothing is logged about its marker, and methods come in the place of the marker line, exactly
when the marker has no carriage return and no other line of the template holds it. -/
theorem fresh_template_hasUsableMarker_iff
    {surroundings : Surroundings}
    {state prepared : State}
    {settings : Settings}
    {path : Path}
    (validated : settings.IsValidated)
    (created :
      outcome (ensureTemplate path settings.className settings.placeholder) surroundings state =
        (.ok true, prepared)) :
    ∃ text final,
      outcome (readTemplate path settings.placeholder) surroundings prepared = (.ok text, final) ∧
        final.tree = prepared.tree ∧
        (final.log = prepared.log ∧
            HasUsableMarker settings.className settings.placeholder text ↔
          '\r' ∉ settings.placeholder.toList ∧
            HasOwnMarkerLine settings.className settings.placeholder) := by
  obtain ⟨oneLine, notBlank⟩ := validated.placeholder
  have written :=
    (readFile_of_ensureTemplate path settings.className settings.placeholder).of_ok created rfl
  have reads := readTemplate_of_readFile written (Text.decode_encode _) settings.placeholder
  refine ⟨readBase settings.className settings.placeholder, _, reads, rfl, ?_⟩
  rw [← Template.hasUsableMarker_readBase_iff (isHarmless_of_isValidated validated) oneLine
    notBlank]
  have silent :
      HasUsableMarker settings.className settings.placeholder
          (readBase settings.className settings.placeholder) →
        markerLog path settings.placeholder
          (readBase settings.className settings.placeholder) = [] :=
    fun usable => markerLog_eq_nil_iff.mpr usable.once
  simp only [List.append_right_eq_self]
  exact ⟨fun both => both.2, fun usable => ⟨silent usable, usable⟩⟩

/-- A directory `w` without a template. -/
def bareState : State :=
  ⟨⟨[(["w"], .directory)]⟩, []⟩

private theorem exists_created
    (className placeholder : String) :
    ∃ prepared,
      outcome (ensureTemplate (.ofText "t.py") className placeholder) ⟨["w"], .works⟩ bareState =
        (.ok true, prepared) :=
  ⟨_, rfl⟩

/-- A template that is written for the standard settings has a usable marker. -/
theorem fresh_template_hasUsableMarker_of_standard :
    ∃ prepared text final,
      outcome
          (ensureTemplate (.ofText "t.py") Settings.standard.className
            Settings.standard.placeholder)
          ⟨["w"], .works⟩ bareState = (.ok true, prepared) ∧
        outcome (readTemplate (.ofText "t.py") Settings.standard.placeholder) ⟨["w"], .works⟩
          prepared = (.ok text, final) ∧
        final.tree = prepared.tree ∧
        final.log = prepared.log ∧
        HasUsableMarker Settings.standard.className Settings.standard.placeholder text := by
  obtain ⟨prepared, created⟩ :=
    exists_created Settings.standard.className Settings.standard.placeholder
  obtain ⟨text, final, reads, same, usable⟩ :=
    fresh_template_hasUsableMarker_iff Settings.standard_isValidated created
  have harmless := isHarmless_of_isValidated Settings.standard_isValidated
  have noReturn : '\r' ∉ Settings.standard.placeholder.toList := by decide +kernel
  exact ⟨prepared, text, final, created, reads, same,
    usable.mpr ⟨noReturn, Template.hasOwnMarkerLine_usual harmless⟩⟩

/-- A marker with a carriage return is not read back. -/
private theorem countOccurrences_readBase_of_return
    (className : String) :
    Text.countOccurrences "# [A]\r# [B]" (readBase className "# [A]\r# [B]") ≠ 1 := by
  have returns : '\r' ∈ "# [A]\r# [B]".toList := by decide +kernel
  rw [Template.countOccurrences_readBase_of_mem returns]
  decide

/-- A marker that says what the comment above it says is not alone. -/
private theorem countOccurrences_readBase_of_comment
    {className : String}
    (harmless : IsHarmless className.toList) :
    Text.countOccurrences "# Generated CRUD methods for specific tables"
      (readBase className "# Generated CRUD methods for specific tables") ≠ 1 := by
  have noReturn : '\r' ∉ "# Generated CRUD methods for specific tables".toList := by
    decide +kernel
  rw [Template.readBase_eq harmless noReturn, ne_eq,
    Template.countOccurrences_base_iff (by decide +kernel) (by decide +kernel)]
  intro own
  have absent := own "    # Generated CRUD methods for specific tables"
    (List.mem_append_left _ (List.mem_append_right _ List.mem_cons_self))
  have occurs :
      Text.occursIn "# Generated CRUD methods for specific tables"
        "    # Generated CRUD methods for specific tables" = true := by
    decide +kernel
  rw [occurs] at absent
  cases absent

/-- A marker that passes the checks of settings but does not occur once in the template that is
written for it. -/
def IsAcceptedInVain
    (placeholder : String) : Prop :=
  { Settings.standard with placeholder := placeholder }.IsValidated ∧
    ∃ prepared text final,
      outcome (ensureTemplate (.ofText "t.py") Settings.standard.className placeholder)
          ⟨["w"], .works⟩ bareState = (.ok true, prepared) ∧
        outcome (readTemplate (.ofText "t.py") placeholder) ⟨["w"], .works⟩ prepared =
          (.ok text, final) ∧
        Text.countOccurrences placeholder text ≠ 1

private theorem isAcceptedInVain_of_countOccurrences
    {placeholder : String}
    (validated : { Settings.standard with placeholder := placeholder }.IsValidated)
    (notOnce :
      Text.countOccurrences placeholder
        (readBase Settings.standard.className placeholder) ≠ 1) :
    IsAcceptedInVain placeholder := by
  obtain ⟨prepared, created⟩ := exists_created Settings.standard.className placeholder
  have written :=
    (readFile_of_ensureTemplate (.ofText "t.py") Settings.standard.className
      placeholder).of_ok created rfl
  exact ⟨validated, prepared, _, _, created,
    readTemplate_of_readFile written (Text.decode_encode _) placeholder, notOnce⟩

/-- A marker with a carriage return is accepted in vain, and so is one that says what the comment
above it says. -/
theorem fresh_template_without_usable_marker :
    IsAcceptedInVain "# [A]\r# [B]" ∧
      IsAcceptedInVain "# Generated CRUD methods for specific tables" := by
  have harmless := isHarmless_of_isValidated Settings.standard_isValidated
  constructor
  · refine isAcceptedInVain_of_countOccurrences ?_ (countOccurrences_readBase_of_return _)
    exact ⟨none, .map [(.text "placeholder", .text "# [A]\r# [B]")], rfl⟩
  · refine isAcceptedInVain_of_countOccurrences ?_ (countOccurrences_readBase_of_comment harmless)
    exact ⟨none, .map [(.text "placeholder",
      .text "# Generated CRUD methods for specific tables")], rfl⟩

end Tablewright.Run
