import Mathlib.Data.List.Forall2
import Tablewright.Methods.Catalogue
import Tablewright.Proofs.Methods.Names
import Tablewright.Proofs.Naming.Solid

/-!
# Method blocks of a list of tables

Tables have blocks exactly when each of them has one by itself and no two different tables produce a
method of the same name. The owners of names say which table produced a name first, and since nobody
else may produce it, they say which table produces it.
-/

namespace Tablewright.Methods

open Naming (NameForms)

/-- What is decided of a result holds of a value that it is. -/
theorem exists_ok_of_decide
    {ε α : Type}
    (result : Except ε α)
    (property : α → Prop)
    [DecidablePred property]
    (holds : result.toOption.any (fun value => decide (property value)) = true) :
    ∃ value, result = .ok value ∧ property value := by
  cases result with
  | error failure =>
      cases holds
  | ok value =>
      exact ⟨value, rfl, of_decide_eq_true holds⟩

/-- Blocks agree unless they belong to different tables and have a method name in common. -/
def MethodBlock.AgreesWith
    (block other : MethodBlock) : Prop :=
  ∀ method ∈ block.names,
    method ∈ other.names →
    block.table = other.table

/-- The block of a table belongs to the table and is in the style of the plan. -/
theorem MethodBlock.eq_of_ofTable
    {plan : NamingPlan}
    {table : String}
    {block : MethodBlock}
    (made : ofTable plan table = .ok block) :
    block.table = table ∧
      block.style = plan.style ∧
      NameForms.derive table plan.overrides plan.pluralizer = .ok block.forms ∧
      firstFault? block.names = none := by
  unfold ofTable at made
  split at made
  · cases made
  · next forms derived =>
      split at made
      · cases made
      · next faultless =>
          cases made
          exact ⟨rfl, rfl, derived, faultless⟩

namespace Owners

/-- The owners of names allow a block when no name of it belongs to another table. -/
def Allows
    (owners : Owners)
    (block : MethodBlock) : Prop :=
  ∀ method ∈ block.names,
    ∀ owner,
      owners.lookup method = some owner →
      owner = block.table

/-- After a claim, each claimed method belongs to the claimant, and the others to whom they did. -/
theorem lookup_of_claim
    {table : String}
    {owners later : Owners}
    {methods : List String}
    (claims : owners.claim table methods = .ok later)
    (method : String) :
    later.lookup method = if method ∈ methods then some table else owners.lookup method := by
  induction methods generalizing owners with
  | nil =>
      cases claims
      simp
  | cons first rest inductionHypothesis =>
      unfold claim at claims
      split at claims
      · next free =>
          rw [inductionHypothesis claims, List.lookup_append]
          by_cases isFirst : method = first
          · subst method
            simp [free]
          · have unnamed : (method == first) = false := by
              simpa using isFirst
            simp [isFirst, unnamed]
      · next owner owned =>
          split at claims
          · next isTable =>
              rw [inductionHypothesis claims]
              by_cases isFirst : method = first
              · subst method
                simp [owned, isTable]
              · simp [isFirst]
          · cases claims

/-- A claim succeeds when no claimed method belongs to another table. -/
theorem exists_claim_iff
    {table : String}
    {owners : Owners}
    {methods : List String} :
    (∃ later, owners.claim table methods = .ok later) ↔
      ∀ method ∈ methods, ∀ owner, owners.lookup method = some owner → owner = table := by
  induction methods generalizing owners with
  | nil =>
      simp [claim]
  | cons first rest inductionHypothesis =>
      unfold claim
      split
      · next free =>
          rw [inductionHypothesis, List.forall_mem_cons]
          have laterOwners :
              ∀ method owner,
                List.lookup method (owners ++ [(first, table)]) = some owner →
                owner = table ∨ owners.lookup method = some owner := by
            intro method owner found
            rw [List.lookup_append, Option.or_eq_some_iff] at found
            rcases found with foundBefore | ⟨-, foundLast⟩
            · exact Or.inr foundBefore
            · rw [List.lookup_singleton] at foundLast
              split at foundLast
              · cases foundLast
                exact Or.inl rfl
              · cases foundLast
          constructor
          · intro fits
            refine ⟨fun owner found => ?_, fun method member owner found => ?_⟩
            · rw [free] at found
              cases found
            · apply fits method member owner
              rw [List.lookup_append, found]
              rfl
          · rintro ⟨-, fits⟩ method member owner found
            rcases laterOwners method owner found with isTable | foundBefore
            · exact isTable
            · exact fits method member owner foundBefore
      · next owner owned =>
          split
          · next isTable =>
              rw [inductionHypothesis, List.forall_mem_cons]
              constructor
              · intro fits
                refine ⟨fun other found => ?_, fits⟩
                rw [owned] at found
                cases found
                exact isTable
              · exact fun fits => fits.2
          · next isOther =>
              constructor
              · rintro ⟨later, impossible⟩
                cases impossible
              · intro fits
                exact (isOther (fits first List.mem_cons_self owner owned)).elim

/-- After a block has claimed its names, another one is allowed when it was before and agrees. -/
theorem allows_of_claim_iff
    {owners later : Owners}
    {block other : MethodBlock}
    (claims : owners.claim block.table block.names = .ok later) :
    later.Allows other ↔ owners.Allows other ∧ block.AgreesWith other := by
  have allowed : owners.Allows block :=
    exists_claim_iff.mp ⟨later, claims⟩
  have ownersLater := lookup_of_claim claims
  constructor
  · intro allows
    refine ⟨fun method member owner found => ?_, fun method own shared => ?_⟩
    · by_cases own : method ∈ block.names
      · rw [allowed method own owner found]
        apply allows method member
        rw [ownersLater, if_pos own]
      · apply allows method member
        rw [ownersLater, if_neg own]
        exact found
    · apply allows method shared
      rw [ownersLater, if_pos own]
  · rintro ⟨allows, agrees⟩ method member owner found
    rw [ownersLater] at found
    split at found
    · next own =>
        cases found
        exact agrees method own member
    · exact allows method member owner found

end Owners

/-- A first table has a block, claims its names, and is followed by the blocks of the others. -/
private theorem blocksFrom_cons_eq_ok_iff
    {plan : NamingPlan}
    {position : Nat}
    {owners : Owners}
    {table : String}
    {rest : List String}
    {blocks : List MethodBlock} :
    blocksFrom plan position owners (table :: rest) = .ok blocks ↔
      ∃ block later others,
        MethodBlock.ofTable plan table = .ok block ∧
          owners.claim block.table block.names = .ok later ∧
          blocksFrom plan (position + 1) later rest = .ok others ∧
          blocks = block :: others := by
  rw [blocksFrom]
  cases made : MethodBlock.ofTable plan table with
  | error fault =>
      simp
  | ok block =>
      obtain ⟨rfl, -⟩ := MethodBlock.eq_of_ofTable made
      cases claims : owners.claim block.table block.names with
      | error clash =>
          simp [claims]
      | ok later =>
          cases madeOthers : blocksFrom plan (position + 1) later rest with
          | error failure =>
              simp [claims, madeOthers, Except.map]
          | ok others =>
              simp [claims, madeOthers, Except.map, eq_comm]

/-- Tables have blocks after others exactly when each has one by itself, the names that have owners
are theirs, and the blocks agree with one another. -/
theorem blocksFrom_eq_ok_iff
    {plan : NamingPlan}
    {position : Nat}
    {owners : Owners}
    {tables : List String}
    {blocks : List MethodBlock} :
    blocksFrom plan position owners tables = .ok blocks ↔
      List.Forall₂ (fun table block => MethodBlock.ofTable plan table = .ok block)
          tables blocks ∧
        (∀ block ∈ blocks, owners.Allows block) ∧
        blocks.Pairwise MethodBlock.AgreesWith := by
  induction tables generalizing position owners blocks with
  | nil =>
      unfold blocksFrom
      constructor
      · intro made
        cases made
        simp
      · rintro ⟨made, -, -⟩
        cases made
        rfl
  | cons table rest inductionHypothesis =>
      rw [blocksFrom_cons_eq_ok_iff]
      constructor
      · rintro ⟨block, later, others, made, claims, madeOthers, rfl⟩
        obtain ⟨all, allowed, agree⟩ := inductionHypothesis.mp madeOthers
        have split : ∀ other ∈ others, owners.Allows other ∧ block.AgreesWith other :=
          fun other member => (Owners.allows_of_claim_iff claims).mp (allowed other member)
        refine ⟨.cons made all, ?_, List.pairwise_cons.mpr ⟨?_, agree⟩⟩
        · rw [List.forall_mem_cons]
          exact ⟨Owners.exists_claim_iff.mp ⟨later, claims⟩,
            fun other member => (split other member).1⟩
        · exact fun other member => (split other member).2
      · rintro ⟨all, allowed, agree⟩
        cases all with
        | cons made all =>
            rename_i block others
            rw [List.forall_mem_cons] at allowed
            rw [List.pairwise_cons] at agree
            obtain ⟨later, claims⟩ := Owners.exists_claim_iff.mpr allowed.1
            refine ⟨block, later, others, made, claims, ?_, rfl⟩
            apply inductionHypothesis.mpr
            refine ⟨all, fun other member => ?_, agree.2⟩
            exact (Owners.allows_of_claim_iff claims).mpr
              ⟨allowed.2 other member, agree.1 other member⟩

/-- Tables have blocks exactly when each has one by itself and the blocks agree with one another. -/
theorem blocksOf_eq_ok_iff
    {plan : NamingPlan}
    {tables : List String}
    {blocks : List MethodBlock} :
    blocksOf plan tables = .ok blocks ↔
      List.Forall₂ (fun table block => MethodBlock.ofTable plan table = .ok block)
          tables blocks ∧
        blocks.Pairwise MethodBlock.AgreesWith := by
  unfold blocksOf
  rw [blocksFrom_eq_ok_iff]
  constructor
  · rintro ⟨all, -, agree⟩
    exact ⟨all, agree⟩
  · rintro ⟨all, agree⟩
    refine ⟨all, fun block _ method _ owner found => ?_, agree⟩
    cases found

/-! ## Failures -/

/-- Forms can be made of a solid name, whatever else keeps its table from having a block. -/
theorem MethodBlock.ofTable_ne_naming
    {table : String}
    (solid : Text.IsSolid table)
    (plan : NamingPlan)
    (error : Naming.NamingError) :
    ofTable plan table ≠ .error (.naming error) := by
  obtain ⟨forms, derived⟩ := Naming.exists_derive solid plan.overrides plan.pluralizer
  unfold ofTable
  rw [derived]
  dsimp only
  split <;> simp

/-- Tables with solid names fail by their method names or by a clash. -/
theorem fault_ne_naming_of_blocksFrom
    {plan : NamingPlan}
    {position : Nat}
    {owners : Owners}
    {tables : List String}
    {failure : BlockFailure}
    (solid : ∀ table ∈ tables, Text.IsSolid table)
    (fails : blocksFrom plan position owners tables = .error failure)
    (error : Naming.NamingError) :
    failure.fault ≠ .naming error := by
  induction tables generalizing position owners with
  | nil =>
      cases fails
  | cons table rest inductionHypothesis =>
      obtain ⟨tableSolid, restSolid⟩ := List.forall_mem_cons.mp solid
      unfold blocksFrom at fails
      split at fails
      · next fault unmade =>
          cases fails
          rintro rfl
          exact MethodBlock.ofTable_ne_naming tableSolid plan error unmade
      · next block made =>
          split at fails
          · cases fails
            simp
          · next later claims =>
              cases failsLater : blocksFrom plan (position + 1) later rest with
              | ok blocks =>
                  rw [failsLater] at fails
                  cases fails
              | error failureLater =>
                  rw [failsLater] at fails
                  cases fails
                  exact inductionHypothesis restSolid failsLater

/-- The definitions of blocks, one after another. -/
def forwardersOf
    (blocks : List MethodBlock) : List Forwarder :=
  blocks.flatMap MethodBlock.forwarders

/-- The definitions of blocks are those of a block for a primitive. -/
theorem mem_forwardersOf_iff
    {blocks : List MethodBlock}
    {forwarder : Forwarder} :
    forwarder ∈ forwardersOf blocks ↔
      ∃ block ∈ blocks, ∃ primitive,
        forwarder =
          ⟨methodName block.style block.forms primitive, block.table, primitive⟩ := by
  simp only [forwardersOf, MethodBlock.forwarders, List.mem_flatMap, List.mem_map,
    Primitive.mem_all, true_and, eq_comm]

/-- The names of a block have one for each primitive. -/
theorem methodName_mem_names
    (block : MethodBlock)
    (primitive : Primitive) :
    methodName block.style block.forms primitive ∈ block.names :=
  List.mem_map_of_mem (Primitive.mem_all primitive)

section Blocks

variable {plan : NamingPlan}
variable {tables : List String}
variable {blocks : List MethodBlock}

/-- Each of the blocks is the block of its table. -/
theorem ofTable_of_mem
    (made : blocksOf plan tables = .ok blocks)
    {block : MethodBlock}
    (member : block ∈ blocks) :
    MethodBlock.ofTable plan block.table = .ok block := by
  obtain ⟨all, -⟩ := blocksOf_eq_ok_iff.mp made
  clear made
  induction all with
  | nil =>
      cases member
  | cons madeFirst _ inductionHypothesis =>
      rcases List.mem_cons.mp member with rfl | memberOfRest
      · rw [(MethodBlock.eq_of_ofTable madeFirst).1]
        exact madeFirst
      · exact inductionHypothesis memberOfRest

/-- The blocks belong to the tables in their order. -/
theorem map_table_of_blocksOf
    (made : blocksOf plan tables = .ok blocks) :
    blocks.map MethodBlock.table = tables := by
  obtain ⟨all, -⟩ := blocksOf_eq_ok_iff.mp made
  clear made
  induction all with
  | nil =>
      rfl
  | cons madeFirst _ inductionHypothesis =>
      rw [List.map_cons, (MethodBlock.eq_of_ofTable madeFirst).1, inductionHypothesis]

/-- Two of the blocks for one table are the same. -/
theorem block_eq_of_table_eq
    (made : blocksOf plan tables = .ok blocks)
    {block other : MethodBlock}
    (member : block ∈ blocks)
    (otherMember : other ∈ blocks)
    (sameTable : block.table = other.table) :
    block = other := by
  have madeOf := ofTable_of_mem made member
  rw [sameTable, ofTable_of_mem made otherMember] at madeOf
  cases madeOf
  rfl

/-- Two definitions for one table and one primitive are the same. -/
theorem forwarder_eq_of_pair_eq
    (made : blocksOf plan tables = .ok blocks)
    {forwarder other : Forwarder}
    (member : forwarder ∈ forwardersOf blocks)
    (otherMember : other ∈ forwardersOf blocks)
    (sameTable : forwarder.table = other.table)
    (samePrimitive : forwarder.primitive = other.primitive) :
    forwarder = other := by
  obtain ⟨block, blockMember, primitive, rfl⟩ := mem_forwardersOf_iff.mp member
  obtain ⟨otherBlock, otherBlockMember, otherPrimitive, rfl⟩ :=
    mem_forwardersOf_iff.mp otherMember
  have sameBlock := block_eq_of_table_eq made blockMember otherBlockMember sameTable
  subst sameBlock
  dsimp only at samePrimitive
  rw [samePrimitive]

/-- Definitions of different tables or for different primitives have different names. -/
def HaveOwnNames
    (forwarders : List Forwarder) : Prop :=
  ∀ forwarder ∈ forwarders,
    ∀ other ∈ forwarders,
      (forwarder.table, forwarder.primitive) ≠ (other.table, other.primitive) →
      forwarder.name ≠ other.name

end Blocks

end Tablewright.Methods
