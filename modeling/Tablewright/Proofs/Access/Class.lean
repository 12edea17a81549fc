import Tablewright.Access.Class
import Tablewright.Proofs.Methods.Catalogue

/-!
# Classes that lose no method

A method of a class is lost when another one with its name comes after it. The blocks of tables are
refused when different tables share a name, so a method can be lost in two ways only: the forms of a
table give two of its own methods one name, or two names that differ have one normal form.
-/

namespace Tablewright.Access

open Methods

/-- Every method of the class is what its name stands for. -/
def GeneratedClass.KeepsMethods
    (generated : GeneratedClass) : Prop :=
  ∀ forwarder ∈ generated.methods,
    generated.find? forwarder.name = some (.method forwarder)

/-- What the name of a method stands for is a method of that name. -/
theorem GeneratedClass.exists_find?
    {generated : GeneratedClass}
    {forwarder : Forwarder}
    (member : forwarder ∈ generated.methods) :
    ∃ found ∈ generated.methods,
      found.name = forwarder.name ∧
        generated.find? forwarder.name = some (.method found) := by
  unfold find?
  split
  · next found finds =>
      refine ⟨found, ?_, ?_, rfl⟩
      · exact List.mem_reverse.mp (List.mem_of_find?_eq_some finds)
      · simpa using List.find?_some finds
  · next findsNone =>
      have noMethod := List.find?_eq_none.mp findsNone forwarder (List.mem_reverse.mpr member)
      simp at noMethod

/-- A class keeps its methods exactly when methods of one name are the same. -/
theorem GeneratedClass.keepsMethods_iff
    {generated : GeneratedClass} :
    generated.KeepsMethods ↔
      ∀ forwarder ∈ generated.methods,
        ∀ other ∈ generated.methods,
          forwarder.name = other.name →
          forwarder = other := by
  constructor
  · intro keeps forwarder member other otherMember sameName
    have found := keeps forwarder member
    rw [sameName, keeps other otherMember] at found
    cases found
    rfl
  · intro single forwarder member
    obtain ⟨found, foundMember, sameName, finds⟩ := exists_find? member
    rw [finds, single found foundMember forwarder member sameName]

section Blocks

variable {plan : NamingPlan}
variable {tables : List String}
variable {blocks : List MethodBlock}

/-- The methods of a class are the definitions of its blocks, as the class knows them. -/
theorem methods_ofBlocks
    (className : String)
    (blocks : List MethodBlock) :
    (GeneratedClass.ofBlocks className blocks).methods = (forwardersOf blocks).map asKnown :=
  rfl

/-- A class keeps its methods exactly when those of different tables or for different primitives
have different names in normal form. -/
theorem keepsMethods_ofBlocks_iff
    (made : blocksOf plan tables = .ok blocks)
    (className : String) :
    (GeneratedClass.ofBlocks className blocks).KeepsMethods ↔
      HaveOwnNames ((forwardersOf blocks).map asKnown) := by
  rw [GeneratedClass.keepsMethods_iff, methods_ofBlocks]
  unfold HaveOwnNames
  simp only [List.forall_mem_map]
  constructor
  · intro single forwarder member other otherMember differentPair sameName
    apply differentPair
    have same := single forwarder member other otherMember sameName
    exact congrArg (fun known : Forwarder => (known.table, known.primitive)) same
  · intro own forwarder member other otherMember sameName
    by_cases samePair :
        (forwarder.table, forwarder.primitive) = (other.table, other.primitive)
    · obtain ⟨sameTable, samePrimitive⟩ := Prod.mk.inj samePair
      rw [forwarder_eq_of_pair_eq made member otherMember sameTable samePrimitive]
    · exact (own forwarder member other otherMember samePair sameName).elim

end Blocks

end Tablewright.Access
