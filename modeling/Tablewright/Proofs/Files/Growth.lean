import Tablewright.Proofs.Files.Tree

/-!
# Trees that grow

Making directories takes nothing away: a tree grows by directories on the way to a place, and it
stays sound. What may be added is a parameter, so that other additions are told the same way.
-/

namespace Tablewright.Files

namespace Tree

/-- A tree that has everything that another one has, and otherwise only what is allowed. -/
def Extends
    (tree later : Tree)
    (allowed : Place → Entry → Prop) : Prop :=
  ∀ place,
    later.get? place = tree.get? place ∨
      (tree.get? place = none ∧
        ∃ entry, later.get? place = some entry ∧ allowed place entry)

namespace Extends

/-- A tree extends itself. -/
theorem refl
    (tree : Tree)
    (allowed : Place → Entry → Prop) :
    tree.Extends tree allowed := by
  intro place
  exact Or.inl rfl

/-- What is there stays there. -/
theorem keeps
    {tree later : Tree}
    {allowed : Place → Entry → Prop}
    (extended : tree.Extends later allowed)
    {place : Place}
    {entry : Entry}
    (found : tree.get? place = some entry) :
    later.get? place = some entry := by
  rcases extended place with same | ⟨absent, -⟩
  · rw [same]
    exact found
  · rw [absent] at found
    cases found

/-- What is new is allowed. -/
theorem allows
    {tree later : Tree}
    {allowed : Place → Entry → Prop}
    (extended : tree.Extends later allowed)
    {place : Place}
    {entry : Entry}
    (absent : tree.get? place = none)
    (found : later.get? place = some entry) :
    allowed place entry := by
  rcases extended place with same | ⟨-, other, foundOther, permitted⟩
  · rw [same, absent] at found
    cases found
  · rw [found] at foundOther
    cases foundOther
    exact permitted

/-- More may be allowed. -/
theorem mono
    {tree later : Tree}
    {allowed permitted : Place → Entry → Prop}
    (extended : tree.Extends later allowed)
    (weaker : ∀ place entry, allowed place entry → permitted place entry) :
    tree.Extends later permitted := by
  intro place
  rcases extended place with same | ⟨absent, entry, found, allows⟩
  · exact Or.inl same
  · exact Or.inr ⟨absent, entry, found, weaker place entry allows⟩

/-- One extension after another is an extension. -/
theorem trans
    {tree middle later : Tree}
    {allowed : Place → Entry → Prop}
    (first : tree.Extends middle allowed)
    (second : middle.Extends later allowed) :
    tree.Extends later allowed := by
  intro place
  rcases second place with same | ⟨absent, entry, found, allows⟩
  · rw [same]
    exact first place
  · rcases first place with sameBefore | ⟨-, other, foundOther, -⟩
    · rw [sameBefore] at absent
      exact Or.inr ⟨absent, entry, found, allows⟩
    · rw [absent] at foundOther
      cases foundOther

/-- Putting something where nothing is extends a tree. -/
theorem set
    {tree : Tree}
    {place : Place}
    {entry : Entry}
    {allowed : Place → Entry → Prop}
    (absent : tree.get? place = none)
    (permitted : allowed place entry) :
    tree.Extends (tree.set place entry) allowed := by
  have noDirectory : tree.get? place ≠ some .directory := by
    simp [absent]
  have below := ne_nil_of_get?_ne_directory noDirectory
  intro other
  by_cases isPlace : other = place
  · subst other
    exact Or.inr ⟨absent, entry, tree.get?_set_same below entry, permitted⟩
  · exact Or.inl (tree.get?_set_other isPlace entry)

/-- With the same entry put at a place of both, one tree extends the other as before. -/
theorem set_both
    {tree later : Tree}
    {place : Place}
    {allowed : Place → Entry → Prop}
    (extended : tree.Extends later allowed)
    (below : place ≠ [])
    (entry : Entry) :
    (tree.set place entry).Extends (later.set place entry) allowed := by
  intro other
  by_cases isPlace : other = place
  · subst other
    left
    rw [tree.get?_set_same below, later.get?_set_same below]
  · rw [tree.get?_set_other isPlace, later.get?_set_other isPlace]
    exact extended other

end Extends

/-- A directory on the way to a place, or at it. -/
def IsWayTo
    (target place : Place)
    (entry : Entry) : Prop :=
  place <+: target ∧ entry = .directory

/-- A sound tree that another one has grown to, by what is allowed. -/
structure Grows
    (tree later : Tree)
    (allowed : Place → Entry → Prop) : Prop where
  extended : tree.Extends later allowed
  sound : later.IsSound

namespace Grows

/-- A sound tree grows to itself. -/
theorem refl
    {tree : Tree}
    (sound : tree.IsSound)
    (allowed : Place → Entry → Prop) :
    tree.Grows tree allowed :=
  ⟨Extends.refl tree allowed, sound⟩

/-- More may be allowed. -/
theorem mono
    {tree later : Tree}
    {allowed permitted : Place → Entry → Prop}
    (grows : tree.Grows later allowed)
    (weaker : ∀ place entry, allowed place entry → permitted place entry) :
    tree.Grows later permitted :=
  ⟨grows.extended.mono weaker, grows.sound⟩

/-- A tree grows step by step. -/
theorem trans
    {tree middle later : Tree}
    {allowed : Place → Entry → Prop}
    (first : tree.Grows middle allowed)
    (second : middle.Grows later allowed) :
    tree.Grows later allowed :=
  ⟨first.extended.trans second.extended, second.sound⟩

/-- A sound tree grows by an entry where it leads to and nothing is. -/
theorem set
    {tree : Tree}
    {place : Place}
    {entry : Entry}
    {allowed : Place → Entry → Prop}
    (sound : tree.IsSound)
    (leads : tree.LeadsTo place)
    (absent : tree.get? place = none)
    (permitted : allowed place entry) :
    tree.Grows (tree.set place entry) allowed where
  extended := Extends.set absent permitted
  sound := by
    apply sound.set leads
    intro isDirectory
    rw [absent] at isDirectory
    cases isDirectory

end Grows

/-- Making a directory adds it, or nothing. -/
theorem ensureDirectory_grows
    {tree : Tree}
    {place : Place}
    (sound : tree.IsSound)
    (workingDirectory : Place)
    (plain : place.IsPlain) :
    tree.Grows (tree.ensureDirectory workingDirectory (.ofPlace place)).1
      (IsWayTo place) := by
  unfold ensureDirectory
  split
  · next made makes =>
      obtain ⟨leads, absent, rfl⟩ := (makeDirectory_eq_ok_iff plain).mp makes
      exact Grows.set sound leads absent ⟨List.prefix_refl place, rfl⟩
  · split
    · exact Grows.refl sound _
    · exact Grows.refl sound _

/-- Making a directory with those above it adds nothing but directories on the way to it. -/
theorem ensureDirectoriesUpTo_grows
    {tree : Tree}
    {place : Place}
    (sound : tree.IsSound)
    (workingDirectory : Place)
    (plain : place.IsPlain)
    (depth : Nat) :
    tree.Grows
      (tree.ensureDirectoriesUpTo workingDirectory (.ofPlace place) depth).1
      (IsWayTo place) := by
  induction depth generalizing tree place with
  | zero =>
      exact ensureDirectory_grows sound workingDirectory plain
  | succ depth inductionHypothesis =>
      have first := ensureDirectory_grows sound workingDirectory plain
      unfold ensureDirectoriesUpTo
      split
      · next made outcome =>
          simpa [outcome] using first
      · next made failure outcome =>
          simp only [outcome] at first
          split
          · have above :
                made.Grows
                  (made.ensureDirectoriesUpTo workingDirectory
                    (Path.ofPlace place).parent depth).1
                  (IsWayTo place) :=
              (inductionHypothesis first.sound plain.dropLast).mono
                fun other entry ⟨leading, isDirectory⟩ =>
                  ⟨leading.trans (List.dropLast_prefix place), isDirectory⟩
            split
            · next cleared aboveOutcome =>
                simp only [aboveOutcome] at above
                exact (first.trans above).trans
                  (ensureDirectory_grows above.sound workingDirectory plain)
            · next left aboveFailure aboveOutcome =>
                simp only [aboveOutcome] at above
                exact first.trans above
          · exact first

/-- Making a directory with all that are missing adds nothing but directories on the way to it,
whether it succeeds or not. -/
theorem ensureDirectories_grows
    {tree later : Tree}
    {workingDirectory place : Place}
    {failure? : Option Failure}
    (sound : tree.IsSound)
    (plain : place.IsPlain)
    (makes :
      tree.ensureDirectories workingDirectory (.ofPlace place) =
        (later, failure?)) :
    tree.Grows later (IsWayTo place) := by
  have grows :=
    ensureDirectoriesUpTo_grows sound workingDirectory plain place.length
  have shape :
      tree.ensureDirectoriesUpTo workingDirectory (.ofPlace place) place.length =
        (later, failure?) :=
    makes
  rw [shape] at grows
  exact grows

end Tree

end Tablewright.Files
