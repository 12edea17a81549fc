import Tablewright.Proofs.Files.Place

/-!
# Trees and the places in them

What each operation on a tree needs and what it changes, for paths that go down from the root. A
tree leads to a place when everything on the way is a directory. An operation that succeeds changes
one place only, and that place was no directory before.
-/

namespace Tablewright.Files

namespace Tree

/-- The root is a directory in every tree. -/
@[simp] theorem get?_root
    (tree : Tree) :
    tree.get? [] = some .directory := by
  simp [get?]

/-- Looking up a key is not affected by dropping other keys. -/
private theorem lookup_filter_ne
    (entries : List (Place × Entry))
    {place other : Place}
    (different : other ≠ place) :
    (entries.filter fun (candidate, _) => candidate ≠ place).lookup other =
      entries.lookup other := by
  induction entries with
  | nil =>
      rfl
  | cons head rest inductionHypothesis =>
      obtain ⟨candidate, entry⟩ := head
      by_cases isPlace : candidate = place
      · subst candidate
        have notHead : (other == place) = false := by
          simpa using different
        simpa [List.lookup_cons, notHead] using inductionHypothesis
      · by_cases isOther : other = candidate
        · subst candidate
          simp [isPlace]
        · have notHead : (other == candidate) = false := by
            simpa using isOther
          simpa [isPlace, List.lookup_cons, notHead] using inductionHypothesis

/-- A dropped key is not found any more. -/
private theorem lookup_filter_self
    (entries : List (Place × Entry))
    (place : Place) :
    (entries.filter fun (candidate, _) => candidate ≠ place).lookup place = none := by
  rw [List.lookup_eq_none_iff]
  intro entry member
  have kept : entry.1 ≠ place := by
    simpa using (List.mem_filter.mp member).2
  simpa using Ne.symm kept

/-- What is put at a place is there. -/
theorem get?_set_same
    (tree : Tree)
    {place : Place}
    (below : place ≠ [])
    (entry : Entry) :
    (tree.set place entry).get? place = some entry := by
  unfold get? set
  rw [if_neg below, List.lookup_append, lookup_filter_self]
  simp

/-- Putting something at a place leaves the other places alone. -/
theorem get?_set_other
    (tree : Tree)
    {place other : Place}
    (different : other ≠ place)
    (entry : Entry) :
    (tree.set place entry).get? other = tree.get? other := by
  have notLast : (other == place) = false := by
    simpa using different
  unfold get? set
  rw [List.lookup_append, lookup_filter_ne _ different]
  simp [List.lookup_cons, notLast]

/-- Nothing is left at a place that is cleared. -/
theorem get?_erase_same
    (tree : Tree)
    {place : Place}
    (below : place ≠ []) :
    (tree.erase place).get? place = none := by
  unfold get? erase
  rw [if_neg below, lookup_filter_self]

/-- Clearing a place leaves the other places alone. -/
theorem get?_erase_other
    (tree : Tree)
    {place other : Place}
    (different : other ≠ place) :
    (tree.erase place).get? other = tree.get? other := by
  unfold get? erase
  rw [lookup_filter_ne _ different]

/-- A place that is no directory is not the root. -/
theorem ne_nil_of_get?_ne_directory
    {tree : Tree}
    {place : Place}
    (noDirectory : tree.get? place ≠ some .directory) :
    place ≠ [] := by
  intro isRoot
  subst place
  exact noDirectory tree.get?_root

/-- Everything on the way to a place is a directory, and its names can be asked about. -/
structure LeadsTo
    (tree : Tree)
    (place : Place) : Prop where
  directories :
    ∀ before,
      before <+: place →
      before ≠ place →
      tree.get? before = some .directory
  names :
    ∀ name ∈ place,
      isTooLong name = false ∧ '\x00' ∉ name.toList

/-- Going down along names succeeds when everything on the way is a directory. -/
theorem reachFrom_eq_ok_iff
    {tree : Tree}
    {start reached : Place}
    {names : List String}
    (down : ".." ∉ names) :
    tree.reachFrom start names = .ok reached ↔
      reached = start ++ names ∧
        (∀ before,
          before <+: names →
          before ≠ names →
          tree.get? (start ++ before) = some .directory) ∧
        ∀ name ∈ names, isTooLong name = false := by
  induction names generalizing start reached with
  | nil =>
      constructor
      · intro reaches
        cases reaches
        simp
      · rintro ⟨rfl, -, -⟩
        simp [reachFrom]
  | cons name rest inductionHypothesis =>
      simp only [List.mem_cons, not_or] at down
      obtain ⟨notDots, restDown⟩ := down
      constructor
      · intro reaches
        simp only [reachFrom] at reaches
        split at reaches
        · cases reaches
        · cases reaches
        · next isDirectory =>
            rw [if_neg (Ne.symm notDots)] at reaches
            split at reaches
            · cases reaches
            · next short =>
                obtain ⟨shape, directories, names⟩ :=
                  (inductionHypothesis restDown).mp reaches
                refine ⟨by simpa using shape, ?_, ?_⟩
                · intro before leading proper
                  rcases List.prefix_cons_iff.mp leading with
                      isEmpty | ⟨deeper, rfl, deeperLeading⟩
                  · simpa [isEmpty] using isDirectory
                  · have deeperProper : deeper ≠ rest := by
                      intro same
                      exact proper (by rw [same])
                    simpa using directories deeper deeperLeading deeperProper
                · intro other member
                  rcases List.mem_cons.mp member with isName | inRest
                  · simpa [isName] using short
                  · exact names other inRest
      · rintro ⟨rfl, directories, names⟩
        have isDirectory : tree.get? start = some .directory := by
          simpa using directories [] (List.nil_prefix) (by simp)
        have short : isTooLong name = false :=
          names name (by simp)
        have restReaches :
            tree.reachFrom (start ++ [name]) rest =
              .ok (start ++ [name] ++ rest) := by
          apply (inductionHypothesis restDown).mpr
          refine ⟨rfl, ?_, fun other member => names other (by simp [member])⟩
          intro before leading proper
          have deeper :=
            directories (name :: before)
              (List.cons_prefix_cons.mpr ⟨rfl, leading⟩)
              (by simpa using proper)
          simpa using deeper
        simpa [reachFrom, isDirectory, Ne.symm notDots, short] using restReaches

/-- Telling a failure in another way does not make a success. -/
private theorem mapError_eq_ok_iff
    {ε ε' α : Type}
    {result : Except ε α}
    {told : ε → ε'}
    {value : α} :
    result.mapError told = .ok value ↔ result = .ok value := by
  cases result with
  | error failure =>
      constructor <;> intro same <;> cases same
  | ok found =>
      constructor <;> intro same <;> cases same <;> rfl

/-- A path that goes down from the root leads to its own place. -/
theorem reach_eq_ok_iff
    {tree : Tree}
    {workingDirectory place reached : Place}
    (plain : place.IsPlain) :
    tree.reach workingDirectory (.ofPlace place) = .ok reached ↔
      reached = place ∧ tree.LeadsTo place := by
  have reaches :
      tree.reachFrom [] place = .ok reached ↔
        reached = [] ++ place ∧
          (∀ before,
            before <+: place →
            before ≠ place →
            tree.get? ([] ++ before) = some .directory) ∧
          ∀ name ∈ place, isTooLong name = false :=
    reachFrom_eq_ok_iff plain
  simp only [List.nil_append] at reaches
  by_cases withNull : place.any fun name => name.toList.contains '\x00'
  · have noLead : ¬ tree.LeadsTo place := by
      intro leads
      obtain ⟨name, member, holdsNull⟩ := List.any_eq_true.mp withNull
      exact (leads.names name member).2 (List.contains_iff_mem.mp holdsNull)
    unfold reach Path.ofPlace
    simp only [withNull, if_true]
    simp [noLead]
  · have noNull : ∀ name ∈ place, '\x00' ∉ name.toList := by
      simpa using withNull
    have mapped :
        tree.reach workingDirectory (.ofPlace place) = .ok reached ↔
          tree.reachFrom [] place = .ok reached := by
      simp only [reach, Path.ofPlace, withNull]
      exact mapError_eq_ok_iff
    rw [mapped, reaches]
    constructor
    · rintro ⟨same, directories, names⟩
      exact ⟨same, directories,
        fun name member => ⟨names name member, noNull name member⟩⟩
    · rintro ⟨same, leads⟩
      exact ⟨same, leads.directories,
        fun name member => (leads.names name member).1⟩

/-- A path to a place that the tree leads to reaches it. -/
theorem reach_of_leadsTo
    {tree : Tree}
    {place : Place}
    (plain : place.IsPlain)
    (leads : tree.LeadsTo place)
    (workingDirectory : Place) :
    tree.reach workingDirectory (.ofPlace place) = .ok place :=
  (reach_eq_ok_iff plain).mpr ⟨rfl, leads⟩

/-- What is seen at a place that the tree leads to. -/
theorem status?_of_leadsTo
    {tree : Tree}
    {place : Place}
    (plain : place.IsPlain)
    (leads : tree.LeadsTo place)
    (workingDirectory : Place) :
    tree.status? workingDirectory (.ofPlace place) = .ok (tree.get? place) := by
  simp [status?, reach_of_leadsTo plain leads]

/-- Something is seen only at a place that the tree leads to. -/
theorem leadsTo_of_status?
    {tree : Tree}
    {workingDirectory place : Place}
    {entry : Entry}
    (plain : place.IsPlain)
    (seen :
      tree.status? workingDirectory (.ofPlace place) = .ok (some entry)) :
    tree.LeadsTo place ∧ tree.get? place = some entry := by
  unfold status? at seen
  split at seen
  · next reached reaches =>
      obtain ⟨rfl, leads⟩ := (reach_eq_ok_iff plain).mp reaches
      exact ⟨leads, Except.ok.inj seen⟩
  · cases seen
  · cases seen

/-- A file is read when the tree leads to it. -/
theorem readFile_eq_ok_iff
    {tree : Tree}
    {workingDirectory place : Place}
    {content : List UInt8}
    (plain : place.IsPlain) :
    tree.readFile workingDirectory (.ofPlace place) = .ok content ↔
      tree.LeadsTo place ∧ tree.get? place = some (.file content) := by
  constructor
  · intro read
    unfold readFile at read
    split at read
    · cases read
    · next reached reaches =>
        obtain ⟨rfl, leads⟩ := (reach_eq_ok_iff plain).mp reaches
        split at read
        · cases read
        · cases read
        · next found =>
            cases read
            exact ⟨leads, found⟩
  · rintro ⟨leads, found⟩
    simp [readFile, reach_of_leadsTo plain leads, found]

/-- A file is written where the tree leads to, unless a directory is there. -/
theorem writeFile_eq_ok_iff
    {tree written : Tree}
    {workingDirectory place : Place}
    {content : List UInt8}
    (plain : place.IsPlain) :
    tree.writeFile workingDirectory (.ofPlace place) content = .ok written ↔
      tree.LeadsTo place ∧ tree.get? place ≠ some .directory ∧
        written = tree.set place (.file content) := by
  constructor
  · intro writes
    unfold writeFile at writes
    split at writes
    · cases writes
    · next reached reaches =>
        obtain ⟨rfl, leads⟩ := (reach_eq_ok_iff plain).mp reaches
        split at writes
        · cases writes
        · next noDirectory =>
            cases writes
            exact ⟨leads, noDirectory, rfl⟩
  · rintro ⟨leads, noDirectory, rfl⟩
    simp only [writeFile, reach_of_leadsTo plain leads]

/-- A file is removed where the tree leads to it. -/
theorem removeFile_eq_ok_iff
    {tree removed : Tree}
    {workingDirectory place : Place}
    (plain : place.IsPlain) :
    tree.removeFile workingDirectory (.ofPlace place) = .ok removed ↔
      tree.LeadsTo place ∧ (∃ content, tree.get? place = some (.file content)) ∧
        removed = tree.erase place := by
  constructor
  · intro removes
    unfold removeFile at removes
    split at removes
    · cases removes
    · next reached reaches =>
        obtain ⟨rfl, leads⟩ := (reach_eq_ok_iff plain).mp reaches
        split at removes
        · cases removes
        · cases removes
        · next content found =>
            cases removes
            exact ⟨leads, ⟨content, found⟩, rfl⟩
  · rintro ⟨leads, ⟨content, found⟩, rfl⟩
    simp [removeFile, reach_of_leadsTo plain leads, found]

/-- A directory is made where the tree leads to and nothing is. -/
theorem makeDirectory_eq_ok_iff
    {tree made : Tree}
    {workingDirectory place : Place}
    (plain : place.IsPlain) :
    tree.makeDirectory workingDirectory (.ofPlace place) = .ok made ↔
      tree.LeadsTo place ∧ tree.get? place = none ∧
        made = tree.set place .directory := by
  constructor
  · intro makes
    unfold makeDirectory at makes
    split at makes
    · cases makes
    · next reached reaches =>
        obtain ⟨rfl, leads⟩ := (reach_eq_ok_iff plain).mp reaches
        split at makes
        · cases makes
        · next absent =>
            cases makes
            exact ⟨leads, absent, rfl⟩
  · rintro ⟨leads, absent, rfl⟩
    simp [makeDirectory, reach_of_leadsTo plain leads, absent]

/-- Clearing a place does not close the way to it. -/
theorem LeadsTo.erase
    {tree : Tree}
    {place : Place}
    (leads : tree.LeadsTo place) :
    (tree.erase place).LeadsTo place where
  directories before leading proper := by
    rw [tree.get?_erase_other proper]
    exact leads.directories before leading proper
  names := leads.names

/-- Where directories stay, ways stay open. -/
theorem LeadsTo.of_directories
    {tree later : Tree}
    {place : Place}
    (leads : tree.LeadsTo place)
    (stay :
      ∀ other,
        tree.get? other = some .directory →
        later.get? other = some .directory) :
    later.LeadsTo place where
  directories before leading proper :=
    stay before (leads.directories before leading proper)
  names := leads.names

/-- A way is open when each of its beginnings is a directory and its names can be asked about. -/
theorem leadsTo_iff_take
    {tree : Tree}
    {place : Place} :
    tree.LeadsTo place ↔
      (∀ depth < place.length, tree.get? (place.take depth) = some .directory) ∧
        ∀ name ∈ place, isTooLong name = false ∧ '\x00' ∉ name.toList := by
  constructor
  · intro leads
    refine ⟨fun depth shorter => ?_, leads.names⟩
    apply leads.directories _ (List.take_prefix depth place)
    intro same
    have sameLength := congrArg List.length same
    rw [List.length_take] at sameLength
    omega
  · rintro ⟨directories, names⟩
    refine ⟨fun before leading proper => ?_, names⟩
    rw [List.prefix_iff_eq_take.mp leading]
    apply directories
    have notLonger := leading.length_le
    have notSame : before.length ≠ place.length := by
      intro same
      exact proper (leading.eq_of_length same)
    omega

instance
    (tree : Tree)
    (place : Place) : Decidable (tree.LeadsTo place) :=
  decidable_of_iff' _ leadsTo_iff_take

/-- A tree is sound when it leads to everything that is in it. -/
def IsSound
    (tree : Tree) : Prop :=
  ∀ place,
    tree.get? place ≠ none →
    tree.LeadsTo place

namespace IsSound

/-- A tree is sound when it leads to each of its entries. -/
theorem iff_entries
    {tree : Tree} :
    tree.IsSound ↔ ∀ entry ∈ tree.entries, tree.LeadsTo entry.1 := by
  have rootLeads : tree.LeadsTo [] :=
    leadsTo_iff_take.mpr (by simp)
  constructor
  · intro sound entry listed
    by_cases isRoot : entry.1 = []
    · rw [isRoot]
      exact rootLeads
    · apply sound
      rw [get?, if_neg isRoot, Ne, List.lookup_eq_none_iff]
      intro unlisted
      simpa using unlisted entry listed
  · intro leads place present
    by_cases isRoot : place = []
    · rw [isRoot]
      exact rootLeads
    · rw [get?, if_neg isRoot, Ne, List.lookup_eq_none_iff] at present
      obtain ⟨entry, hits⟩ := Classical.not_forall.mp present
      have hit : entry ∈ tree.entries ∧ place = entry.1 := by
        simpa using hits
      rw [hit.2]
      exact leads entry hit.1

instance
    (tree : Tree) : Decidable tree.IsSound :=
  decidable_of_iff' _ iff_entries

/-- In a sound tree nothing is where nothing is seen. -/
theorem get?_of_unseen
    {tree : Tree}
    {workingDirectory place : Place}
    (sound : tree.IsSound)
    (plain : place.IsPlain)
    (unseen :
      tree.status? workingDirectory (.ofPlace place) = .ok none) :
    tree.get? place = none := by
  cases found : tree.get? place with
  | none =>
      rfl
  | some entry =>
      have leads := sound place (by simp [found])
      rw [status?_of_leadsTo plain leads, found] at unseen
      cases unseen

/-- Putting something where the tree leads to keeps it sound, unless a directory gives way to a
file. -/
theorem set
    {tree : Tree}
    {place : Place}
    {entry : Entry}
    (sound : tree.IsSound)
    (leads : tree.LeadsTo place)
    (keeps :
      tree.get? place = some .directory →
      entry = .directory) :
    (tree.set place entry).IsSound := by
  have stay :
      ∀ other,
        tree.get? other = some .directory →
        (tree.set place entry).get? other = some .directory := by
    intro other isDirectory
    by_cases isPlace : other = place
    · subst other
      by_cases isRoot : place = []
      · simp [isRoot]
      · rw [tree.get?_set_same isRoot entry, keeps isDirectory]
    · rw [tree.get?_set_other isPlace entry]
      exact isDirectory
  intro other present
  by_cases isPlace : other = place
  · subst other
    exact leads.of_directories stay
  · rw [tree.get?_set_other isPlace entry] at present
    exact (sound other present).of_directories stay

/-- Clearing a place that is no directory keeps a tree sound. -/
theorem erase
    {tree : Tree}
    {place : Place}
    (sound : tree.IsSound)
    (noDirectory : tree.get? place ≠ some .directory) :
    (tree.erase place).IsSound := by
  have stay :
      ∀ other,
        tree.get? other = some .directory →
        (tree.erase place).get? other = some .directory := by
    intro other isDirectory
    have notPlace : other ≠ place := by
      intro isPlace
      subst other
      exact noDirectory isDirectory
    rw [tree.get?_erase_other notPlace]
    exact isDirectory
  intro other present
  by_cases isPlace : other = place
  · subst other
    rw [tree.get?_erase_same (ne_nil_of_get?_ne_directory noDirectory)] at present
    exact (present rfl).elim
  · rw [tree.get?_erase_other isPlace] at present
    exact (sound other present).of_directories stay

end IsSound

/-- Where directories stay, names lead to where they led before. -/
theorem reachFrom_of_directories
    {tree later : Tree}
    (stay :
      ∀ other,
        tree.get? other = some .directory →
        later.get? other = some .directory)
    {names : List String}
    {start reached : Place}
    (reaches : tree.reachFrom start names = .ok reached) :
    later.reachFrom start names = .ok reached := by
  induction names generalizing start with
  | nil =>
      exact reaches
  | cons name rest inductionHypothesis =>
      unfold reachFrom at reaches ⊢
      split at reaches
      · cases reaches
      · cases reaches
      · next isDirectory =>
          rw [stay start isDirectory]
          dsimp only
          split at reaches
          · next up =>
              rw [if_pos up]
              exact inductionHypothesis reaches
          · next notUp =>
              rw [if_neg notUp]
              split at reaches
              · cases reaches
              · next short =>
                  rw [if_neg short]
                  exact inductionHypothesis reaches

/-- Where directories stay, a path leads to where it led before. -/
theorem reach_of_directories
    {tree later : Tree}
    (stay :
      ∀ other,
        tree.get? other = some .directory →
        later.get? other = some .directory)
    {workingDirectory reached : Place}
    {path : Path}
    (reaches : tree.reach workingDirectory path = .ok reached) :
    later.reach workingDirectory path = .ok reached := by
  unfold reach at reaches ⊢
  split at reaches
  · cases reaches
  · next askable =>
      rw [if_neg askable]
      exact mapError_eq_ok_iff.mpr
        (reachFrom_of_directories stay (mapError_eq_ok_iff.mp reaches))

/-- What is written along a path is read along it. -/
theorem readFile_of_writeFile
    {tree written : Tree}
    {workingDirectory : Place}
    {path : Path}
    {content : List UInt8}
    (writes : tree.writeFile workingDirectory path content = .ok written) :
    written.readFile workingDirectory path = .ok content := by
  unfold writeFile at writes
  cases reaches : tree.reach workingDirectory path with
  | error failure =>
      rw [reaches] at writes
      cases writes
  | ok place =>
      simp only [reaches] at writes
      split at writes
      · cases writes
      · next noDirectory =>
          cases writes
          have below := ne_nil_of_get?_ne_directory noDirectory
          have stay :
              ∀ other,
                tree.get? other = some .directory →
                (tree.set place (.file content)).get? other = some .directory := by
            intro other isDirectory
            have elsewhere : other ≠ place := by
              rintro rfl
              exact noDirectory isDirectory
            rw [tree.get?_set_other elsewhere]
            exact isDirectory
          rw [readFile, reach_of_directories stay reaches]
          dsimp only
          rw [tree.get?_set_same below]

/-- Going along names and then along others is going along all of them. -/
theorem reachFrom_append
    (tree : Tree)
    (start : Place)
    (names more : List String) :
    tree.reachFrom start (names ++ more) =
      (tree.reachFrom start names).bind fun reached => tree.reachFrom reached more := by
  induction names generalizing start with
  | nil =>
      rfl
  | cons name rest inductionHypothesis =>
      simp only [List.cons_append, reachFrom]
      split
      · rfl
      · rfl
      · split
        · exact inductionHypothesis start.dropLast
        · split
          · rfl
          · exact inductionHypothesis (start ++ [name])

/-- Going up from where the tree leads to ends at a directory. -/
theorem get?_of_reach_dots
    {tree : Tree}
    {workingDirectory place reached : Place}
    (plain : place.IsPlain)
    (reaches :
      tree.reach workingDirectory (.ofPlace (place ++ [".."])) = .ok reached) :
    tree.get? reached = some .directory := by
  have goesUp : tree.reachFrom [] (place ++ [".."]) = .ok reached := by
    unfold reach at reaches
    split at reaches
    · cases reaches
    · exact mapError_eq_ok_iff.mp reaches
  rw [reachFrom_append] at goesUp
  cases goesDown : tree.reachFrom [] place with
  | error fault =>
      simp [goesDown, Except.bind] at goesUp
  | ok bottom =>
      obtain ⟨shape, directories, -⟩ := (reachFrom_eq_ok_iff plain).mp goesDown
      have bottomIsPlace : bottom = place := by
        simpa using shape
      subst bottom
      simp only [goesDown, Except.bind, reachFrom] at goesUp
      split at goesUp
      · cases goesUp
      · cases goesUp
      · rw [if_pos trivial] at goesUp
        cases goesUp
        by_cases isRoot : place = []
        · simp [isRoot]
        · have proper : place.dropLast ≠ place := by
            intro same
            have shorter := congrArg List.length same
            have positive := List.length_pos_iff.mpr isRoot
            simp only [List.length_dropLast] at shorter
            omega
          simpa using directories place.dropLast (List.dropLast_prefix place) proper

/-- Nothing is written where a way goes up in the end. -/
theorem writeFile_dots_ne_ok
    (tree written : Tree)
    (workingDirectory : Place)
    {place : Place}
    (plain : place.IsPlain)
    (content : List UInt8) :
    tree.writeFile workingDirectory (.ofPlace (place ++ [".."])) content ≠ .ok written := by
  intro writes
  unfold writeFile at writes
  split at writes
  · cases writes
  · next reached reaches =>
      rw [get?_of_reach_dots plain reaches] at writes
      cases writes

/-- Nothing is read where a way goes up in the end. -/
theorem readFile_dots_ne_ok
    (tree : Tree)
    (workingDirectory : Place)
    {place : Place}
    (plain : place.IsPlain)
    (content : List UInt8) :
    tree.readFile workingDirectory (.ofPlace (place ++ [".."])) ≠ .ok content := by
  intro reads
  unfold readFile at reads
  split at reads
  · cases reads
  · next reached reaches =>
      rw [get?_of_reach_dots plain reaches] at reads
      cases reads

end Tree

end Tablewright.Files
