import Tablewright.Proofs.Schema.Keeping

/-!
# Names in types

Readers for types keep to good names, by induction on the steps that they may take. Each reader is
put together of readers with one step less.
-/

namespace Tablewright.Schema

open Named (IsNamed)

variable {good : String → Prop}

namespace Reader

/-- All readers for types keep to good names in a number of steps. -/
structure TypesKeep
    (good : String → Prop)
    (fuel : Nat) : Prop where
  type : Keeps good (type fuel)
  boundType : Keeps good (boundType fuel)
  functionType : Keeps good (functionType fuel)
  signatureParameters : Keeps good (signatureParameters fuel)
  parameter : Keeps good (parameter fuel)
  optionalType : Keeps good (optionalType fuel)
  typeParameters : Keeps good (typeParameters fuel)
  typeParameter : Keeps good (typeParameter fuel)
  unionType : Keeps good (unionType fuel)
  intersectionType : Keeps good (intersectionType fuel)
  operatorType : Keeps good (operatorType fuel)
  suffixes : ∀ operand, IsNamed good operand → Keeps good (suffixes operand fuel)
  primaryType : Keeps good (primaryType fuel)
  insertions : Keeps good (insertions fuel)
  namedType : ∀ spelling, Keeps good (namedType spelling fuel)
  typeArguments : Keeps good (typeArguments fuel)
  tupleElement : Keeps good (tupleElement fuel)
  objectType : Keeps good (objectType fuel)
  memberBlock : Keeps good (memberBlock fuel)
  members : Keeps good (members fuel)
  member : Keeps good (member fuel)
  signature : Keeps good (signature fuel)
  indexMember : Keeps good (indexMember fuel)

-- The fields above hide the readers of the same names, which are written with their namespace.
section

variable {fuel : Nat}
variable (keep : TypesKeep good fuel)

include keep

/-- A type that is a function or a constructor, or else read by another reader. -/
theorem TypesKeep.functionOr
    {other : Reader Tree}
    (others : Keeps good other) :
    Keeps good (do
      if ← atFunctionType then
        Reader.functionType fuel
      else if ← atConstructorType then
        let _ ← acceptWord "abstract"
        requireWord "new"
        Reader.functionType fuel
      else
        other) := by
  refine Keeps.atFunctionType.either keep.functionType ?_
  refine Keeps.atConstructorType.either ?_ others
  exact (Keeps.acceptWord _).seq <| (Keeps.requireWord _).seq keep.functionType

theorem TypesKeep.type_succ :
    Keeps good (Reader.type (fuel + 1)) := by
  unfold Reader.type
  refine keep.functionOr ?_
  refine keep.unionType.bind fun _ checked => (Keeps.nextIs _).either ?_ (.pure checked)
  refine Keeps.next.seq <| keep.boundType.bind fun _ bound => ?_
  refine (Keeps.requireSign _).seq <| keep.type.bind fun _ whenTrue => ?_
  refine (Keeps.requireSign _).seq <| keep.type.yields fun _ whenFalse => ?_
  simp [checked, bound, whenTrue, whenFalse]

theorem TypesKeep.boundType_succ :
    Keeps good (Reader.boundType (fuel + 1)) := by
  unfold Reader.boundType
  refine keep.functionOr ?_
  refine .attempted ?_ keep.unionType fun _ bound => .pure (by simp [bound])
  refine (Keeps.requireWord _).seq <| Keeps.anyWord.seq <| (Keeps.requireWord _).seq ?_
  exact keep.unionType.bind fun _ bound => (Keeps.atSign _).either (.pure bound) .failure

theorem TypesKeep.functionType_succ :
    Keeps good (Reader.functionType (fuel + 1)) := by
  unfold Reader.functionType
  refine keep.signatureParameters.bind fun _ parameters => (Keeps.requireSign _).seq ?_
  exact keep.type.yields fun _ result => by simp [parameters, result]

theorem TypesKeep.signatureParameters_succ :
    Keeps good (Reader.signatureParameters (fuel + 1)) := by
  unfold Reader.signatureParameters
  refine keep.typeParameters.bind fun _ types => (Keeps.requireSign _).seq ?_
  exact (keep.parameter.separated _ _ _).yields fun _ parameters => by simp [types, parameters]

theorem TypesKeep.parameter_succ :
    Keeps good (Reader.parameter (fuel + 1)) := by
  have declared :
      Keeps good (do
        let _ ← acceptSign "?"
        let declared ← Reader.optionalType fuel
        return Tree.group declared) :=
    (Keeps.acceptSign _).seq <| keep.optionalType.yields fun _ declared => by simp [declared]
  unfold Reader.parameter
  refine (Keeps.acceptSign _).seq <| (Keeps.modifiers _).seq ?_
  exact (Keeps.nextIs _).either (Keeps.skipBrackets.seq declared) (Keeps.anyWord.seq declared)

theorem TypesKeep.optionalType_succ :
    Keeps good (Reader.optionalType (fuel + 1)) := by
  unfold Reader.optionalType
  refine (Keeps.acceptSign _).either ?_ (.pure Named.isNamed_nil)
  exact keep.type.yields fun _ declared => by simp [declared]

theorem TypesKeep.typeParameters_succ :
    Keeps good (Reader.typeParameters (fuel + 1)) := by
  unfold Reader.typeParameters
  refine (Keeps.acceptSign _).either ?_ (.pure Tree.isNamed_leaf)
  exact (keep.typeParameter.separated _ _ _).yields fun _ parameters => by simp [parameters]

theorem TypesKeep.typeParameter_succ :
    Keeps good (Reader.typeParameter (fuel + 1)) := by
  unfold Reader.typeParameter
  refine (Keeps.nextIs _).bind fun _ _ => (Keeps.secondIs _).bind fun _ _ => .skip Keeps.next ?_
  refine (Keeps.nextIs _).bind fun _ _ => (Keeps.secondIs _).bind fun _ _ => .skip Keeps.next ?_
  refine Keeps.anyWord.seq <| (Keeps.acceptWord _).perhapsOne keep.type fun _ bound => ?_
  refine (Keeps.acceptSign _).perhapsOne keep.type fun _ default => .pure ?_
  simp [bound, default]

theorem TypesKeep.unionType_succ :
    Keeps good (Reader.unionType (fuel + 1)) := by
  unfold Reader.unionType
  refine (Keeps.acceptSign _).bind fun _ _ => ?_
  refine (keep.intersectionType.joined _ _).bind fun _ parts => ?_
  split
  · exact .pure (Named.isNamed_cons.mp parts).1
  · exact .pure (Tree.isNamed_group.mpr parts)

theorem TypesKeep.intersectionType_succ :
    Keeps good (Reader.intersectionType (fuel + 1)) := by
  unfold Reader.intersectionType
  refine (Keeps.acceptSign _).bind fun _ _ => ?_
  refine (keep.operatorType.joined _ _).bind fun _ parts => ?_
  split
  · exact .pure (Named.isNamed_cons.mp parts).1
  · exact .pure (Tree.isNamed_group.mpr parts)

theorem TypesKeep.operatorType_succ :
    Keeps good (Reader.operatorType (fuel + 1)) := by
  unfold Reader.operatorType
  refine (Keeps.nextIs _).bind fun _ _ => (Keeps.secondIs _).bind fun _ _ => .ite ?_ ?_
  · exact Keeps.next.seq <| keep.operatorType.yields fun _ operand => by simp [operand]
  refine (Keeps.atWord _).bind fun _ _ => (Keeps.secondIs _).bind fun _ _ => .ite ?_ ?_
  · refine Keeps.next.seq <| Keeps.anyWord.seq <| Keeps.yields (.attempt ?_) fun _ bound => ?_
    · refine (Keeps.requireWord _).seq <| keep.unionType.bind fun _ bound => ?_
      exact (Keeps.atSign _).either (Keeps.seq .failure (.pure bound)) (.pure bound)
    · simpa using bound
  refine Keeps.atFunctionType.either keep.functionType ?_
  exact keep.primaryType.bind keep.suffixes

theorem TypesKeep.suffixes_succ
    {operand : Tree}
    (given : IsNamed good operand) :
    Keeps good (Reader.suffixes operand (fuel + 1)) := by
  unfold Reader.suffixes
  refine (Keeps.nextIs _).either ?_ (.pure given)
  refine Keeps.next.seq <| (Keeps.acceptSign _).either ?_ ?_
  · exact keep.suffixes _ (by simp [given])
  · refine keep.type.bind fun _ index => (Keeps.requireSign _).seq ?_
    exact keep.suffixes _ (by simp [given, index])

theorem TypesKeep.primaryType_succ :
    Keeps good (Reader.primaryType (fuel + 1)) := by
  unfold Reader.primaryType
  refine Keeps.peek?.bind fun token? _ => ?_
  cases token? with
  | none =>
      exact .failure
  | some token =>
      dsimp only
      split
      · exact Keeps.next.seq (keep.namedType _)
      · exact Keeps.next.seq (.pure Tree.isNamed_leaf)
      · exact Keeps.next.seq (.pure Tree.isNamed_leaf)
      · exact Keeps.next.seq (.pure Tree.isNamed_leaf)
      · exact Keeps.next.seq <| keep.insertions.yields fun _ inserted => by simp [inserted]
      · exact Keeps.next.seq <| (Keeps.require _).seq (.pure Tree.isNamed_leaf)
      · refine Keeps.next.seq <| keep.type.bind fun _ inner => (Keeps.requireSign _).seq ?_
        exact .pure (by simp [inner])
      · exact Keeps.next.seq <| (keep.tupleElement.separated _ _ _).yields fun _ elements => by
          simp [elements]
      · exact keep.objectType
      · exact keep.objectType
      · exact .failure

theorem TypesKeep.insertions_succ :
    Keeps good (Reader.insertions (fuel + 1)) := by
  unfold Reader.insertions
  refine keep.type.bind fun _ first => Keeps.next.bind fun _ _ => ?_
  split
  · exact keep.insertions.yields fun _ others => by simp [first, others]
  · exact .pure (by simp [first])
  · exact .failure

theorem TypesKeep.namedType_succ
    (spelling : String) :
    Keeps good (Reader.namedType spelling (fuel + 1)) := by
  have applied :
      Keeps good (do return Tree.group [← Reader.typeArguments fuel]) :=
    keep.typeArguments.yields fun _ arguments => by simp [arguments]
  have tested :
      Keeps good (do return Tree.group [← Reader.type fuel]) :=
    keep.type.yields fun _ tested => by simp [tested]
  unfold Reader.namedType
  refine .ite ?_ <| .ite ?_ ?_
  · refine (Keeps.acceptWord _).either ?_ ((Keeps.dottedName _).seq applied)
    exact Keeps.skipBrackets.seq <| (Keeps.acceptSign _).bind fun _ _ =>
      .skip (Keeps.dottedName _) applied
  · exact Keeps.skipBrackets.seq <| (Keeps.acceptSign _).bind fun _ _ =>
      .skip (Keeps.dottedName _) applied
  · refine (Keeps.nextIs _).bind fun _ _ => .ite ?_ ?_
    · exact Keeps.anyWord.seq <| (Keeps.acceptWord _).either tested (.pure Tree.isNamed_leaf)
    refine (Keeps.nextIs _).bind fun _ _ => (Keeps.secondIs _).bind fun _ _ => .ite ?_ ?_
    · exact Keeps.next.seq tested
    · exact (Keeps.acceptSign _).bind fun _ _ => .skip (Keeps.dottedName _) applied

theorem TypesKeep.typeArguments_succ :
    Keeps good (Reader.typeArguments (fuel + 1)) := by
  unfold Reader.typeArguments
  refine (Keeps.acceptSign _).either ?_ (.pure Tree.isNamed_leaf)
  exact (keep.type.separated _ _ _).yields fun _ arguments => by simp [arguments]

theorem TypesKeep.tupleElement_succ :
    Keeps good (Reader.tupleElement (fuel + 1)) := by
  unfold Reader.tupleElement
  refine (Keeps.acceptSign _).seq <| Keeps.seq (.attempt ?_) ?_
  · exact Keeps.anyWord.seq <| (Keeps.acceptSign _).seq (Keeps.requireSign _)
  · refine keep.type.bind fun _ element => (Keeps.acceptSign _).seq (.pure ?_)
    simp [element]

theorem TypesKeep.objectType_succ :
    Keeps good (Reader.objectType (fuel + 1)) := by
  unfold Reader.objectType
  exact keep.memberBlock.yields fun _ members => by simp [members]

theorem TypesKeep.memberBlock_succ :
    Keeps good (Reader.memberBlock (fuel + 1)) := by
  unfold Reader.memberBlock
  exact (Keeps.require _).seq <| (Keeps.acceptIf _).seq keep.members

theorem TypesKeep.members_succ :
    Keeps good (Reader.members (fuel + 1)) := by
  unfold Reader.members
  refine Keeps.objectEnd.either (.pure Named.isNamed_nil) ?_
  refine keep.member.bind fun _ first => ?_
  have goesOn :
      Keeps good (do return _ :: (← Reader.members fuel)) :=
    keep.members.yields fun _ others => Named.isNamed_cons.mpr ⟨first, others⟩
  exact (Keeps.acceptIf _).either goesOn <| Keeps.atEnd.either goesOn .failure

theorem TypesKeep.member_succ :
    Keeps good (Reader.member (fuel + 1)) := by
  unfold Reader.member
  refine (Keeps.acceptIf _).seq <| (Keeps.nextIs _).either keep.signature ?_
  refine (Keeps.atWord _).bind fun _ _ => (Keeps.secondIs _).bind fun _ _ => .ite ?_ ?_
  · exact Keeps.next.seq keep.signature
  · refine (Keeps.modifiers _).seq <| Keeps.atIndex.either keep.indexMember ?_
    refine (Keeps.acceptSign _).seq <| Keeps.memberName.bind fun _ name => ?_
    refine (Keeps.acceptSign _).seq <| (Keeps.nextIs _).either keep.signature ?_
    refine keep.optionalType.yields fun _ declared => Tree.isNamed_property.mpr ⟨name, ?_⟩
    exact Named.isNamed_head? declared

theorem TypesKeep.signature_succ :
    Keeps good (Reader.signature (fuel + 1)) := by
  unfold Reader.signature
  refine keep.signatureParameters.bind fun _ parameters => ?_
  exact keep.optionalType.yields fun _ result => by simp [parameters, result]

theorem TypesKeep.indexMember_succ :
    Keeps good (Reader.indexMember (fuel + 1)) := by
  have member
      {keys : List Tree}
      (named : IsNamed good keys) :
      Keeps good (do
        requireSign "]"
        optionalMark
        let declared ← Reader.optionalType fuel
        return Tree.group (keys ++ declared)) := by
    refine (Keeps.requireSign _).seq <| Keeps.optionalMark.seq ?_
    exact keep.optionalType.yields fun _ declared => by simp [named, declared]
  unfold Reader.indexMember
  refine (Keeps.requireSign _).seq <| Keeps.anyWord.seq <| (Keeps.acceptSign _).either ?_ ?_
  · exact keep.type.bind fun _ keys => Keeps.bind (.pure (by simp [keys])) fun _ => member
  · refine (Keeps.requireWord _).seq <| keep.type.bind fun _ keys => ?_
    refine (Keeps.acceptWord _).perhapsOne keep.type fun _ renamed => ?_
    exact Keeps.bind (.pure (by simp [keys, renamed])) fun _ => member

theorem TypesKeep.succ :
    TypesKeep good (fuel + 1) where
  type := keep.type_succ
  boundType := keep.boundType_succ
  functionType := keep.functionType_succ
  signatureParameters := keep.signatureParameters_succ
  parameter := keep.parameter_succ
  optionalType := keep.optionalType_succ
  typeParameters := keep.typeParameters_succ
  typeParameter := keep.typeParameter_succ
  unionType := keep.unionType_succ
  intersectionType := keep.intersectionType_succ
  operatorType := keep.operatorType_succ
  suffixes := fun _ => keep.suffixes_succ
  primaryType := keep.primaryType_succ
  insertions := keep.insertions_succ
  namedType := keep.namedType_succ
  typeArguments := keep.typeArguments_succ
  tupleElement := keep.tupleElement_succ
  objectType := keep.objectType_succ
  memberBlock := keep.memberBlock_succ
  members := keep.members_succ
  member := keep.member_succ
  signature := keep.signature_succ
  indexMember := keep.indexMember_succ

end

theorem typesKeep
    (fuel : Nat) :
    TypesKeep good fuel := by
  induction fuel with
  | zero =>
      constructor <;> intros <;> exact Keeps.failure
  | succ fuel inductionHypothesis =>
      exact inductionHypothesis.succ

end Reader

end Tablewright.Schema
