import Mathlib.Data.List.Basic
import Tablewright.Proofs.Methods.Catalogue

/-!
# Tables that fail by themselves, and tables that clash

Whether tables have blocks is a matter of single tables and of pairs: each table needs names that can
be defined, and two different tables must not share one. The owners of names are the first tables
that produce them, which is the invariant of the loop over the tables. So a failure is about the
first table that fails by itself or shares a name with a different table before it.
-/

namespace Tablewright.Methods

open Naming (NameForms NamingError)

private theorem verb_not_prefix_of_reserved
    (style : MethodStyle)
    (primitive : Primitive) :
    ∀ word ∈ Text.reservedWords,
      ¬ (primitive.verb style).toList <+: word.toList := by
  cases style <;> cases primitive <;> decide

theorem not_reserved_of_mem_methodNames
    {style : MethodStyle}
    {forms : NameForms}
    {name : String}
    (member : name ∈ methodNames style forms) :
    name ∉ Text.reservedWords := by
  obtain ⟨primitive, -, rfl⟩ := List.mem_map.mp member
  intro reserved
  apply verb_not_prefix_of_reserved style primitive _ reserved
  unfold methodName
  rw [String.toList_append]
  exact List.prefix_append _ _

/-- A name that a method may have: an identifier, and not the name of a primitive. -/
def IsAllowedName
    (name : String) : Prop :=
  Text.isIdentifier name = true ∧
    ∀ primitive : Primitive, name ≠ primitive.name

private theorem mem_primitiveNames_iff
    {name : String} :
    name ∈ Primitive.all.map Primitive.name ↔
      ∃ primitive : Primitive, name = primitive.name := by
  simp [Primitive.mem_all, eq_comm]

private theorem isDefinable_eq
    {name : String}
    (free : name ∉ Text.reservedWords) :
    Text.isDefinable name = Text.isIdentifier name := by
  simp [Text.isDefinable, free]

/-- Nothing is wrong with the names that are allowed. -/
theorem nameFault?_eq_none_iff
    {name : String}
    (free : name ∉ Text.reservedWords) :
    nameFault? name = none ↔ IsAllowedName name := by
  unfold nameFault? IsAllowedName
  rw [isDefinable_eq free]
  cases Text.isIdentifier name with
  | false =>
      simp
  | true =>
      simp [Primitive.mem_all, eq_comm]

/-- A name that is not allowed is no identifier, or it is that of a primitive. -/
theorem nameFault?_eq_some
    {name : String}
    {fault : NameFault}
    (free : name ∉ Text.reservedWords)
    (found : nameFault? name = some fault) :
    (fault = .invalid name ∧ Text.isIdentifier name = false) ∨
      (fault = .shadows name ∧ ∃ primitive : Primitive, name = primitive.name) := by
  unfold nameFault? at found
  rw [isDefinable_eq free] at found
  cases identifier : Text.isIdentifier name with
  | false =>
      simp only [identifier, Bool.not_false, if_true, Option.some.injEq] at found
      exact Or.inl ⟨found.symm, rfl⟩
  | true =>
      simp only [identifier, Bool.not_true, Bool.false_eq_true, if_false] at found
      split at found
      · next listed =>
          cases found
          exact Or.inr ⟨rfl, mem_primitiveNames_iff.mp (List.contains_iff_mem.mp listed)⟩
      · cases found

namespace NamingPlan

/-- The names of the methods of a table. A table that has no forms has none. -/
def namesOf
    (plan : NamingPlan)
    (table : String) : List String :=
  match NameForms.derive table plan.overrides plan.pluralizer with
  | .ok forms => methodNames plan.style forms
  | .error _ => []

/-- A table is fine by itself: it has forms, and each of its names is allowed. -/
def Allows
    (plan : NamingPlan)
    (table : String) : Prop :=
  (∃ forms, NameForms.derive table plan.overrides plan.pluralizer = .ok forms) ∧
    ∀ name ∈ plan.namesOf table, IsAllowedName name

/-- Two tables have a method name in common. -/
def Share
    (plan : NamingPlan)
    (table other : String) : Prop :=
  ∃ name ∈ plan.namesOf table, name ∈ plan.namesOf other

/-- Tables are fine together: each is fine by itself, and no two different ones share a name. -/
structure Fits
    (plan : NamingPlan)
    (tables : List String) : Prop where
  alone : ∀ table ∈ tables, plan.Allows table
  together :
    ∀ table ∈ tables,
      ∀ other ∈ tables,
        table ≠ other →
        ¬ plan.Share table other

/-- The first of some tables that has a method of this name. -/
def ownerOf
    (plan : NamingPlan)
    (tables : List String)
    (name : String) : Option String :=
  tables.find? fun table => name ∈ plan.namesOf table

/-- Whether a name of a table is one of a different table among others. -/
def IsTaken
    (plan : NamingPlan)
    (tables : List String)
    (table name : String) : Prop :=
  ∃ other ∈ tables, other ≠ table ∧ name ∈ plan.namesOf other

end NamingPlan

/-- What is wrong with a table of a list, when the tables before it are fine together. -/
inductive IsFault
    (plan : NamingPlan)
    (tables earlier : List String)
    (table : String) : BlockFault → Prop where
  /-- The table has no forms. -/
  | naming
      (error : NamingError)
      (underivable : NameForms.derive table plan.overrides plan.pluralizer = .error error) :
      IsFault plan tables earlier table (.naming error)
  /-- The first name that is not allowed is no identifier. -/
  | invalid
      (before after : List String)
      (name : String)
      (shape : plan.namesOf table = before ++ name :: after)
      (first : ∀ other ∈ before, IsAllowedName other)
      (unspelled : Text.isIdentifier name = false) :
      IsFault plan tables earlier table (.name (.invalid name))
  /-- The first name that is not allowed is that of a primitive. -/
  | shadows
      (before after : List String)
      (primitive : Primitive)
      (shape : plan.namesOf table = before ++ primitive.name :: after)
      (first : ∀ other ∈ before, IsAllowedName other) :
      IsFault plan tables earlier table (.name (.shadows primitive.name))
  /-- The first name that a different table had before belongs to the first table that has it. -/
  | clash
      (before after : List String)
      (owner name : String)
      (alone : plan.Allows table)
      (shape : plan.namesOf table = before ++ name :: after)
      (first : ∀ other ∈ before, ¬ plan.IsTaken earlier table other)
      (taken : plan.IsTaken earlier table name)
      (owns : plan.ownerOf tables name = some owner)
      (different : owner ≠ table) :
      IsFault plan tables earlier table (.clash owner name)

/-- A failure is about the first table of a list that is not fine by itself or shares a name with a
different table before it. -/
structure BlockFailure.IsFirst
    (plan : NamingPlan)
    (tables : List String)
    (failure : BlockFailure) : Prop where
  here : tables[failure.position]? = some failure.table
  before : plan.Fits (tables.take failure.position)
  fault :
    IsFault plan tables (tables.take failure.position) failure.table failure.fault

section Table

variable {plan : NamingPlan}
variable {table : String}

theorem NamingPlan.namesOf_of_derive
    {forms : NameForms}
    (derived : NameForms.derive table plan.overrides plan.pluralizer = .ok forms) :
    plan.namesOf table = methodNames plan.style forms := by
  simp [NamingPlan.namesOf, derived]

theorem MethodBlock.names_of_ofTable
    {block : MethodBlock}
    (made : ofTable plan table = .ok block) :
    block.names = plan.namesOf table := by
  obtain ⟨-, style, derived, -⟩ := eq_of_ofTable made
  rw [names, style, NamingPlan.namesOf_of_derive derived]

private theorem not_reserved_of_mem_namesOf
    {name : String}
    (member : name ∈ plan.namesOf table) :
    name ∉ Text.reservedWords := by
  unfold NamingPlan.namesOf at member
  split at member
  · exact not_reserved_of_mem_methodNames member
  · cases member

/-- A table that has a block by itself is fine by itself. -/
theorem NamingPlan.allows_of_ofTable
    {block : MethodBlock}
    (made : MethodBlock.ofTable plan table = .ok block) :
    plan.Allows table := by
  obtain ⟨-, style, derived, faultless⟩ := MethodBlock.eq_of_ofTable made
  refine ⟨⟨_, derived⟩, fun name member => ?_⟩
  rw [firstFault?, MethodBlock.names_of_ofTable made, List.findSome?_eq_none_iff] at faultless
  exact (nameFault?_eq_none_iff (not_reserved_of_mem_namesOf member)).mp (faultless name member)

/-- The first name of a table with something wrong is the first one that is not allowed. -/
private theorem isFault_of_firstFault?
    {nameFault : NameFault}
    (found : firstFault? (plan.namesOf table) = some nameFault)
    (tables earlier : List String) :
    IsFault plan tables earlier table (.name nameFault) := by
  obtain ⟨before, name, after, shape, isFault, faultless⟩ :=
    List.findSome?_eq_some_iff.mp found
  have free : ∀ other ∈ before ++ name :: after, other ∉ Text.reservedWords := by
    intro other member
    rw [← shape] at member
    exact not_reserved_of_mem_namesOf member
  have first : ∀ other ∈ before, IsAllowedName other := by
    intro other member
    exact (nameFault?_eq_none_iff (free other (List.mem_append_left _ member))).mp
      (faultless other member)
  rcases nameFault?_eq_some (free name (by simp)) isFault with
    ⟨rfl, unspelled⟩ | ⟨rfl, primitive, rfl⟩
  · exact .invalid before after name shape first unspelled
  · exact .shadows before after primitive shape first

/-- A table that has no block by itself has a fault of its own. -/
theorem isFault_of_ofTable
    {fault : BlockFault}
    (fails : MethodBlock.ofTable plan table = .error fault)
    (tables earlier : List String) :
    IsFault plan tables earlier table fault := by
  unfold MethodBlock.ofTable at fails
  split at fails
  · next error underivable =>
      cases fails
      exact .naming error underivable
  · next forms derived =>
      rw [← NamingPlan.namesOf_of_derive derived] at fails
      split at fails
      · next nameFault found =>
          cases fails
          exact isFault_of_firstFault? found tables earlier
      · cases fails

/-- A table with a fault is not fine by itself, or a name of it is taken. -/
theorem IsFault.not_allows_or_taken
    {tables earlier : List String}
    {fault : BlockFault}
    (isFault : IsFault plan tables earlier table fault) :
    ¬ plan.Allows table ∨
      ∃ name ∈ plan.namesOf table, plan.IsTaken earlier table name := by
  cases isFault with
  | naming error underivable =>
      left
      rintro ⟨⟨forms, derived⟩, -⟩
      rw [underivable] at derived
      cases derived
  | invalid before after name shape first unspelled =>
      left
      rintro ⟨-, allowed⟩
      have spelled := (allowed name (by simp [shape])).1
      rw [unspelled] at spelled
      cases spelled
  | shadows before after primitive shape first =>
      left
      rintro ⟨-, allowed⟩
      exact (allowed primitive.name (by simp [shape])).2 primitive rfl
  | clash before after owner name alone shape first taken owns different =>
      exact Or.inr ⟨name, by simp [shape], taken⟩

end Table

/-- A claim is refused at the first name that belongs to somebody else. -/
theorem Owners.claim_eq_error
    {table owner name : String}
    {owners : Owners}
    {names : List String}
    (refused : owners.claim table names = .error (owner, name)) :
    ∃ before after,
      names = before ++ name :: after ∧
        (owners.lookup name = some owner ∧ owner ≠ table) ∧
        ∀ other ∈ before, ∀ holder, owners.lookup other = some holder → holder = table := by
  induction names generalizing owners with
  | nil =>
      cases refused
  | cons first rest inductionHypothesis =>
      unfold claim at refused
      split at refused
      · next free =>
          obtain ⟨before, after, rfl, ⟨owned, isOther⟩, others⟩ := inductionHypothesis refused
          have ownedBefore : owners.lookup name = some owner := by
            rw [List.lookup_append, Option.or_eq_some_iff] at owned
            rcases owned with found | ⟨-, isNew⟩
            · exact found
            · rw [List.lookup_singleton] at isNew
              split at isNew
              · cases isNew
                exact (isOther rfl).elim
              · cases isNew
          refine ⟨first :: before, after, rfl, ⟨ownedBefore, isOther⟩, ?_⟩
          rw [List.forall_mem_cons]
          refine ⟨fun holder found => ?_, fun other member holder found => ?_⟩
          · rw [free] at found
            cases found
          · apply others other member
            rw [List.lookup_append, found]
            rfl
      · next holder owned =>
          split at refused
          · next isTable =>
              obtain ⟨before, after, rfl, belongs, others⟩ := inductionHypothesis refused
              refine ⟨first :: before, after, rfl, belongs, ?_⟩
              rw [List.forall_mem_cons]
              refine ⟨fun other found => ?_, others⟩
              rw [owned] at found
              cases found
              exact isTable
          · next isOther =>
              cases refused
              exact ⟨[], rest, rfl, ⟨owned, isOther⟩, by simp⟩

section Loop

variable {plan : NamingPlan}
variable {seen : List String}
variable {owners : Owners}

/-- The owners of names are the first tables so far that produce them. -/
def Owners.Records
    (owners : Owners)
    (plan : NamingPlan)
    (seen : List String) : Prop :=
  ∀ name,
    owners.lookup name = plan.ownerOf seen name

theorem NamingPlan.ownerOf_eq_some
    {name owner : String}
    (owns : plan.ownerOf seen name = some owner) :
    owner ∈ seen ∧ name ∈ plan.namesOf owner :=
  ⟨List.mem_of_find?_eq_some owns, by simpa using List.find?_some owns⟩

/-- Among tables that are fine together a name is taken when its first table is a different one. -/
theorem NamingPlan.Fits.isTaken_iff
    (fits : plan.Fits seen)
    {table name : String} :
    plan.IsTaken seen table name ↔
      ∃ owner, plan.ownerOf seen name = some owner ∧ owner ≠ table := by
  constructor
  · rintro ⟨other, member, isOther, named⟩
    cases owns : plan.ownerOf seen name with
    | none =>
        have unnamed := List.find?_eq_none.mp owns other member
        simp [named] at unnamed
    | some owner =>
        refine ⟨owner, rfl, ?_⟩
        rintro rfl
        obtain ⟨ownerMember, ownerNamed⟩ := ownerOf_eq_some owns
        exact fits.together other member owner ownerMember isOther ⟨name, named, ownerNamed⟩
  · rintro ⟨owner, owns, isOther⟩
    obtain ⟨member, named⟩ := ownerOf_eq_some owns
    exact ⟨owner, member, isOther, named⟩

/-- A table that is fine by itself and has no name of a different table is fine with those before. -/
theorem NamingPlan.Fits.append
    (fits : plan.Fits seen)
    {table : String}
    (alone : plan.Allows table)
    (free : ∀ name ∈ plan.namesOf table, ¬ plan.IsTaken seen table name) :
    plan.Fits (seen ++ [table]) where
  alone other member := by
    rcases List.mem_append.mp member with inSeen | isTable
    · exact fits.alone other inSeen
    · rw [List.mem_singleton.mp isTable]
      exact alone
  together first firstMember second secondMember different := by
    rintro ⟨name, firstNamed, secondNamed⟩
    rw [List.mem_append, List.mem_singleton] at firstMember secondMember
    rcases firstMember with firstSeen | rfl
    · rcases secondMember with secondSeen | rfl
      · exact fits.together first firstSeen second secondSeen different
          ⟨name, firstNamed, secondNamed⟩
      · exact free name secondNamed ⟨first, firstSeen, different, firstNamed⟩
    · rcases secondMember with secondSeen | rfl
      · exact free name firstNamed ⟨second, secondSeen, different.symm, secondNamed⟩
      · exact different rfl

/-- When a table claims its names, the owners are again the first tables that produce them. -/
theorem Owners.Records.of_claim
    (records : owners.Records plan seen)
    {table : String}
    {later : Owners}
    (claims : owners.claim table (plan.namesOf table) = .ok later) :
    later.Records plan (seen ++ [table]) := by
  intro name
  rw [lookup_of_claim claims, NamingPlan.ownerOf, List.find?_append]
  split
  · next named =>
      have own := exists_claim_iff.mp ⟨later, claims⟩ name named
      rw [records name, NamingPlan.ownerOf] at own
      cases owns : seen.find? fun table => decide (name ∈ plan.namesOf table) with
      | none =>
          simp [named]
      | some owner =>
          rw [own owner owns]
          rfl
  · next unnamed =>
      rw [records name, NamingPlan.ownerOf]
      simp [unnamed]

theorem NamingPlan.Fits.free_of_claim
    (fits : plan.Fits seen)
    (records : owners.Records plan seen)
    {table : String}
    {later : Owners}
    (claims : owners.claim table (plan.namesOf table) = .ok later) :
    ∀ name ∈ plan.namesOf table, ¬ plan.IsTaken seen table name := by
  intro name named taken
  obtain ⟨owner, owns, isOther⟩ := fits.isTaken_iff.mp taken
  exact isOther (Owners.exists_claim_iff.mp ⟨later, claims⟩ name named owner
    ((records name).trans owns))

theorem isFault_of_claim
    (fits : plan.Fits seen)
    (records : owners.Records plan seen)
    {table owner name : String}
    (alone : plan.Allows table)
    (refused : owners.claim table (plan.namesOf table) = .error (owner, name))
    (rest : List String) :
    IsFault plan (seen ++ rest) seen table (.clash owner name) := by
  obtain ⟨before, after, shape, ⟨owned, isOther⟩, others⟩ := Owners.claim_eq_error refused
  rw [records name] at owned
  refine .clash before after owner name alone shape ?_ ?_ ?_ isOther
  · intro other member taken
    obtain ⟨holder, owns, differs⟩ := fits.isTaken_iff.mp taken
    exact differs (others other member holder ((records other).trans owns))
  · exact fits.isTaken_iff.mpr ⟨owner, owned, isOther⟩
  · unfold NamingPlan.ownerOf at owned ⊢
    rw [List.find?_append, owned]
    rfl

/-- After tables that are fine together and own their names, the loop ends with blocks when all
tables are fine together, and else with the first failure. -/
theorem blocksFrom_after
    (fits : plan.Fits seen)
    (records : owners.Records plan seen)
    (tables : List String) :
    match blocksFrom plan seen.length owners tables with
    | .ok _ => plan.Fits (seen ++ tables)
    | .error failure => failure.IsFirst plan (seen ++ tables) := by
  -- Each table that is fine joins those seen, which stay fine together and own their names.
  induction tables generalizing seen owners with
  | nil =>
      simpa [blocksFrom] using fits
  | cons table rest inductionHypothesis =>
      have here : (seen ++ table :: rest)[seen.length]? = some table := by
        simp
      have before : plan.Fits ((seen ++ table :: rest).take seen.length) := by
        simpa using fits
      unfold blocksFrom
      cases made : MethodBlock.ofTable plan table with
      | error fault =>
          exact ⟨here, before, isFault_of_ofTable made _ _⟩
      | ok block =>
          have alone := NamingPlan.allows_of_ofTable made
          dsimp only
          rw [MethodBlock.names_of_ofTable made]
          cases claims : owners.claim table (plan.namesOf table) with
          | error clash =>
              refine ⟨here, before, ?_⟩
              dsimp only
              rw [List.take_left' rfl]
              exact isFault_of_claim fits records alone claims (table :: rest)
          | ok later =>
              have fitsWith := fits.append alone (fits.free_of_claim records claims)
              have after := inductionHypothesis fitsWith (records.of_claim claims)
              rw [List.length_append, List.length_singleton, List.append_assoc] at after
              dsimp only
              cases madeRest : blocksFrom plan (seen.length + 1) later rest with
              | error failure =>
                  rw [madeRest] at after
                  exact after
              | ok blocks =>
                  rw [madeRest] at after
                  exact after

end Loop

section Tables

variable {plan : NamingPlan}
variable {tables : List String}

theorem BlockFailure.IsFirst.not_fits
    {failure : BlockFailure}
    (isFirst : failure.IsFirst plan tables) :
    ¬ plan.Fits tables := by
  intro fits
  have member := List.mem_of_getElem? isFirst.here
  rcases isFirst.fault.not_allows_or_taken with
    disallowed | ⟨name, named, other, otherBefore, isOther, otherNamed⟩
  · exact disallowed (fits.alone failure.table member)
  · exact fits.together other (List.mem_of_mem_take otherBefore) failure.table member isOther
      ⟨name, otherNamed, named⟩

private theorem fits_nil
    (plan : NamingPlan) :
    plan.Fits [] where
  alone := by simp
  together := by simp

/-- A list of tables has blocks and is fine together, or it has a first failure. -/
private theorem blocksOf_cases
    (plan : NamingPlan)
    (tables : List String) :
    match blocksOf plan tables with
    | .ok _ => plan.Fits tables
    | .error failure => failure.IsFirst plan tables :=
  blocksFrom_after (fits_nil plan) (fun _ => rfl : Owners.Records [] plan []) tables

theorem isFirst_of_blocksOf_eq_error
    {failure : BlockFailure}
    (fails : blocksOf plan tables = .error failure) :
    failure.IsFirst plan tables := by
  simpa [fails] using blocksOf_cases plan tables

/-- Tables have blocks exactly when they are fine together. -/
theorem exists_blocksOf_iff :
    (∃ blocks, blocksOf plan tables = .ok blocks) ↔ plan.Fits tables := by
  constructor
  · rintro ⟨blocks, made⟩
    simpa [made] using blocksOf_cases plan tables
  · intro fits
    cases made : blocksOf plan tables with
    | error failure =>
        exact ((isFirst_of_blocksOf_eq_error made).not_fits fits).elim
    | ok blocks =>
        exact ⟨blocks, rfl⟩

/-- Among tables that are fine together any are so. -/
theorem NamingPlan.Fits.subset
    {other : List String}
    (fits : plan.Fits tables)
    (among : other ⊆ tables) :
    plan.Fits other where
  alone table member := fits.alone table (among member)
  together table member other otherMember :=
    fits.together table (among member) other (among otherMember)

theorem NamingPlan.fits_iff_of_perm
    {other : List String}
    (reordered : other.Perm tables) :
    plan.Fits other ↔ plan.Fits tables :=
  ⟨fun fits => fits.subset reordered.symm.subset, fun fits => fits.subset reordered.subset⟩

/-- The block of a table by itself is the only block of a list with that table only. -/
theorem blocksOf_singleton
    {table : String}
    {block : MethodBlock}
    (made : MethodBlock.ofTable plan table = .ok block) :
    blocksOf plan [table] = .ok [block] :=
  blocksOf_eq_ok_iff.mpr ⟨.cons made .nil, List.pairwise_singleton _ _⟩

end Tables

/-- A list of tables has blocks exactly when each table is fine by itself and no two different ones
share a name, in whatever order they come. The blocks are those of the single tables, in the order of
the list. If there are none, the failure is about the first table that is not fine by itself or
shares a name with a different table before it. -/
theorem blocksOf_exact_on_tables_and_pairs
    (plan : NamingPlan)
    (tables : List String) :
    ((∃ blocks, blocksOf plan tables = .ok blocks) ↔
        (∀ table ∈ tables, plan.Allows table) ∧
          ∀ table ∈ tables,
            ∀ other ∈ tables,
              table ≠ other →
              ¬ plan.Share table other) ∧
      (∀ blocks,
        blocksOf plan tables = .ok blocks →
        List.Forall₂ (fun table block => blocksOf plan [table] = .ok [block]) tables blocks) ∧
      (∀ other : List String,
        other.Perm tables →
        ((∃ blocks, blocksOf plan other = .ok blocks) ↔
          ∃ blocks, blocksOf plan tables = .ok blocks)) ∧
      ∀ failure,
        blocksOf plan tables = .error failure →
        failure.IsFirst plan tables := by
  refine ⟨?_, ?_, ?_, ?_⟩
  · rw [exists_blocksOf_iff]
    constructor
    · rintro ⟨alone, together⟩
      exact ⟨alone, together⟩
    · rintro ⟨alone, together⟩
      exact ⟨alone, together⟩
  · intro blocks made
    obtain ⟨all, -⟩ := blocksOf_eq_ok_iff.mp made
    exact all.imp fun _ _ madeOne => blocksOf_singleton madeOne
  · intro other reordered
    rw [exists_blocksOf_iff, exists_blocksOf_iff]
    exact NamingPlan.fits_iff_of_perm reordered
  · intro failure fails
    exact isFirst_of_blocksOf_eq_error fails

end Tablewright.Methods
