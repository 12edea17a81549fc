import Tablewright.Proofs.Files.Place
import Tablewright.Proofs.Settings.Rules

/-!
# Where settings put a template

A template is to stand in the directory of the output, under the name that the settings give. The
check of that name lets pass what is its own last name. Double dots are, but they name no entry of a
directory: they lead out of it.
-/

namespace Tablewright.Files

namespace Path

/-- The path leads to the entry of the directory that has the name. -/
structure IsEntryOf
    (path directory : Path)
    (name : String) : Prop where
  inDirectory : path.parent = directory
  named : path.name = name

/-- A plain name that is put behind a place is an entry of its directory. -/
theorem isEntryOf_append_singleton
    (directory : Place)
    (name : String) :
    (ofPlace (directory ++ [name])).IsEntryOf (ofPlace directory) name where
  inDirectory := by
    simp [parent, ofPlace]
  named := by
    simp [Path.name, ofPlace]

/-- What a resolved path leads to has a plain name, or is the root. -/
theorem name_resolve_ne_dots
    {workingDirectory : Place}
    (plain : workingDirectory.IsPlain)
    (path : Path) :
    (path.resolve workingDirectory).name ≠ ".." := by
  have placePlain := placeFrom_isPlain plain path
  intro isDots
  apply placePlain
  cases shape : (path.placeFrom workingDirectory).getLast? with
  | none =>
      simp [resolve, ofPlace, name, shape] at isDots
  | some last =>
      simp only [resolve, ofPlace, name, shape, Option.getD_some] at isDots
      subst last
      exact List.mem_of_getLast? shape

end Path

section Template

variable {place workingDirectory : Place}
variable {filename : String}

/-- A template with a plain name is resolved to the entry of that name. -/
theorem resolve_templatePath
    (plain : place.IsPlain)
    (nonempty : filename ≠ "")
    (bare : (Path.ofText filename).name = filename)
    (notDots : filename ≠ "..") :
    (templatePath (.ofPlace place) filename).resolve workingDirectory =
      .ofPlace (place.dropLast ++ [filename]) := by
  have entryPlain : Place.IsPlain (place.dropLast ++ [filename]) :=
    plain.dropLast.append_singleton notDots
  have walked := Path.walk_of_isPlain entryPlain []
  rw [templatePath_ofPlace nonempty bare]
  simpa [Path.resolve, Path.placeFrom, Path.ofPlace] using walked

/-- A template that is named by double dots is resolved to what holds the directory of the
output. -/
theorem resolve_templatePath_dots
    (plain : place.IsPlain) :
    (templatePath (.ofPlace place) "..").resolve workingDirectory =
      .ofPlace place.dropLast.dropLast := by
  have walked :
      Path.walk [] (place.dropLast ++ [".."]) = place.dropLast.dropLast := by
    rw [Path.walk_append, Path.walk_of_isPlain plain.dropLast]
    rfl
  rw [templatePath_ofPlace (by decide) (by decide +kernel)]
  simpa [Path.resolve, Path.placeFrom, Path.ofPlace] using walked

end Template

end Tablewright.Files

namespace Tablewright.Settings

open Files (Path Place templatePath)

/-- For validated settings, wherever the output is, the path of the template is resolved to the
entry of the output's directory that has the name of the template, exactly when this name is not
made of double dots. With double dots it is resolved to the directory above that of the output. -/
theorem template_beside_output_iff
    {settings : Settings}
    (validated : settings.IsValidated)
    {workingDirectory : Place}
    (plain : workingDirectory.IsPlain)
    {given output : Path}
    (resolved : given.resolve workingDirectory = output) :
    (((templatePath output settings.templateFilename).resolve workingDirectory).IsEntryOf
        output.parent settings.templateFilename ↔
      settings.templateFilename ≠ "..") ∧
    (settings.templateFilename = ".." →
      (templatePath output settings.templateFilename).resolve workingDirectory =
        output.parent.parent) := by
  obtain ⟨nonempty, bare⟩ := validated.templateFilename
  have placePlain := Path.placeFrom_isPlain plain given
  subst resolved
  refine ⟨⟨?_, ?_⟩, ?_⟩
  · intro isEntry isDots
    apply Path.name_resolve_ne_dots plain (templatePath _ settings.templateFilename)
    exact isEntry.named.trans isDots
  · intro notDots
    have entry :
        (templatePath (Path.resolve workingDirectory given) settings.templateFilename).resolve
            workingDirectory =
          .ofPlace ((Path.placeFrom workingDirectory given).dropLast ++
            [settings.templateFilename]) :=
      Files.resolve_templatePath placePlain nonempty bare notDots
    rw [entry]
    exact Path.isEntryOf_append_singleton _ _
  · intro isDots
    rw [isDots]
    exact Files.resolve_templatePath_dots placePlain

/-- The standard template of an output that is given with double dots in its path. -/
theorem template_beside_output_iff_of_standard :
    (Path.ofText "lib/../out/api.py").resolve ["w"] = .ofPlace ["w", "out", "api.py"] ∧
      (templatePath (.ofPlace ["w", "out", "api.py"]) "supabase_api_template.py").resolve ["w"] =
        .ofPlace ["w", "out", "supabase_api_template.py"] ∧
      ((templatePath (.ofPlace ["w", "out", "api.py"]) "supabase_api_template.py").resolve
        ["w"]).IsEntryOf (.ofPlace ["w", "out"]) "supabase_api_template.py" := by
  have resolved :
      (Path.ofText "lib/../out/api.py").resolve ["w"] = .ofPlace ["w", "out", "api.py"] := by
    decide +kernel
  have plain : Place.IsPlain ["w"] := by decide
  have placed := template_beside_output_iff standard_isValidated plain resolved
  exact ⟨resolved, by decide +kernel, placed.1.mpr (by decide)⟩

/-- Double dots pass the check of the name of a template, which is then no entry of the directory of
the output, but the directory above it. -/
theorem template_above_output_of_dots :
    { standard with templateFilename := ".." }.IsValidated ∧
      (templatePath (.ofPlace ["w", "out", "api.py"]) "..").resolve ["w"] = .ofPlace ["w"] ∧
      ¬ ((templatePath (.ofPlace ["w", "out", "api.py"]) "..").resolve ["w"]).IsEntryOf
        (.ofPlace ["w", "out"]) ".." := by
  have leads :
      (templatePath (.ofPlace ["w", "out", "api.py"]) "..").resolve ["w"] = .ofPlace ["w"] := by
    decide +kernel
  refine ⟨⟨none, .map [(.text "template_filename", .text "..")], rfl⟩, leads, ?_⟩
  intro isEntry
  have named := isEntry.named
  rw [leads] at named
  exact absurd named (by decide)

end Tablewright.Settings
