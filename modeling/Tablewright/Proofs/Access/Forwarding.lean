import Tablewright.Proofs.Access.Class
import Tablewright.Proofs.Calls.Binding

/-!
# Methods that are their primitives

A method calls its primitive by name. So it does what its primitive does for its table unless its
own name stands for another method or another method has the name of the primitive. Methods are
refused when they are called like a primitive, but the names are compared before they are put in
normal form.
-/

namespace Tablewright.Access

open Methods

/-- A method does for its table what its primitive does, and arguments that do not fit it are
refused before anything is done. -/
def GeneratedClass.Forwards
    (generated : GeneratedClass)
    (method : Forwarder) : Prop :=
  ∀ arguments responses,
    generated.call ⟨method.name, arguments, responses⟩ =
      match Calls.bind (generated.methodCallee method) arguments with
      | .error error => .refused (.arguments error)
      | .ok _ =>
          generated.callPrimitive method.primitive (arguments.withFirst (.text method.table))
            responses

section Parameters

variable (generated : GeneratedClass)
variable (method : Forwarder)

/-- A primitive has the parameters of its methods after the table. -/
theorem primitiveCallee_eq :
    generated.primitiveCallee method.primitive =
      (generated.methodCallee method).withFirst (generated.titleOf method.primitive.name)
        "table_name" :=
  rfl

theorem slotNames_methodCallee :
    (generated.methodCallee method).slotNames =
      (method.primitive.signature.positional ++ method.primitive.signature.namedOnly).map
        Parameter.name := by
  simp [GeneratedClass.methodCallee, slotsOf, Calls.Callee.slotNames, Calls.Callee.slots,
    Parameter.slot, Function.comp_def]

/-- No two parameters of a primitive have one name. -/
theorem parameterNames_nodup
    (primitive : Primitive) :
    ("table_name" :: "self" ::
      (primitive.signature.positional ++ primitive.signature.namedOnly).map
        Parameter.name).Nodup := by
  cases primitive <;> decide

/-- A method passes on its table and everything it was bound to. -/
theorem passedOn_eq
    (bound : Calls.Bound) :
    passedOn method bound =
      (bound.argumentsFor (generated.methodCallee method)).withFirst (.text method.table) := by
  simp [passedOn, Calls.Bound.argumentsFor, Calls.Arguments.withFirst,
    GeneratedClass.methodCallee, slotsOf, Parameter.slot]

/-- What a method passes on is to its primitive what the arguments of the method are after its
table. -/
theorem callPrimitive_passedOn
    {arguments : Calls.Arguments}
    {bound : Calls.Bound}
    (fits : Calls.bind (generated.methodCallee method) arguments = .ok bound)
    (responses : List Response) :
    generated.callPrimitive method.primitive (passedOn method bound) responses =
      generated.callPrimitive method.primitive (arguments.withFirst (.text method.table))
        responses := by
  have knownOnly : (generated.methodCallee method).acceptsOthers = false := rfl
  have apart :
      ("table_name" :: "self" :: (generated.methodCallee method).slotNames).Nodup := by
    rw [slotNames_methodCallee]
    exact parameterNames_nodup method.primitive
  obtain ⟨isNew, slotsApart⟩ := List.nodup_cons.mp apart
  have forSlots : bound.values.map Prod.fst = (generated.methodCallee method).slotNames := by
    obtain ⟨-, rfl⟩ := (Calls.bind_eq_ok_iff knownOnly).mp fits
    simp [Calls.Callee.slotNames, Function.comp_def]
  have again := Calls.bind_argumentsFor knownOnly slotsApart forSlots
  have direct := Calls.bind_withFirst knownOnly isNew fits
    (generated.titleOf method.primitive.name) (.text method.table)
  have passed := Calls.bind_withFirst knownOnly isNew again
    (generated.titleOf method.primitive.name) (.text method.table)
  rw [GeneratedClass.callPrimitive, GeneratedClass.callPrimitive, passedOn_eq,
    primitiveCallee_eq generated method, direct, passed]

end Parameters

section Calls

variable {generated : GeneratedClass}
variable {method : Forwarder}

theorem callNamed_of_primitive
    {name : String}
    {primitive : Primitive}
    (found : generated.find? name = some (.primitive primitive))
    (arguments : Calls.Arguments)
    (responses : List Response) :
    generated.callNamed name arguments responses =
      generated.callPrimitive primitive arguments responses := by
  rw [GeneratedClass.callNamed, found]

/-- A name that stands for a method binds the arguments and calls the name of the primitive. -/
theorem callNamed_of_method
    {name : String}
    (found : generated.find? name = some (.method method))
    (arguments : Calls.Arguments)
    (responses : List Response) :
    generated.callNamed name arguments responses =
      match Calls.bind (generated.methodCallee method) arguments with
      | .error error => .refused (.arguments error)
      | .ok bound =>
          generated.callNamed method.primitive.name (passedOn method bound) responses := by
  rw [GeneratedClass.callNamed, found]
  dsimp only
  split <;> simp_all

/-- The name of a primitive stands for it exactly when no method is called so. -/
theorem find?_primitive_iff
    {primitive : Primitive} :
    generated.find? primitive.name = some (.primitive primitive) ↔
      ∀ method ∈ generated.methods, method.name ≠ primitive.name := by
  unfold GeneratedClass.find?
  split
  · next shadow finds =>
      have member := List.mem_reverse.mp (List.mem_of_find?_eq_some finds)
      have sameName : shadow.name = primitive.name := by simpa using List.find?_some finds
      constructor
      · intro isPrimitive
        cases isPrimitive
      · intro free
        exact (free shadow member sameName).elim
  · next findsNone =>
      constructor
      · intro _ method member
        simpa using List.find?_eq_none.mp findsNone method (List.mem_reverse.mpr member)
      · intro _
        cases primitive <;> rfl

/-- A method forwards when its name stands for it and the name of its primitive for the primitive. -/
theorem forwards_of_find?
    (found : generated.find? method.name = some (.method method))
    (primitiveFound :
      generated.find? method.primitive.name = some (.primitive method.primitive)) :
    generated.Forwards method := by
  intro arguments responses
  rw [GeneratedClass.call, callNamed_of_method found]
  cases fits : Calls.bind (generated.methodCallee method) arguments with
  | error reason =>
      rfl
  | ok bound =>
      dsimp only
      rw [callNamed_of_primitive primitiveFound,
        callPrimitive_passedOn generated method fits]

end Calls

section Shadows

variable {generated : GeneratedClass}
variable {method shadow : Forwarder}

/-- A table before everything that a primitive takes is too much for most primitives, and the names
that go with it are unknown to the others: only updating a row takes what creating, updating many
rows or deleting takes. -/
private theorem takes_one_more_iff
    (primitive other : Primitive) :
    primitive.signature.positional.length < other.signature.positional.length ∧
        (∀ parameter ∈ primitive.signature.namedOnly,
          parameter.name ∈
            "self" :: (other.signature.positional ++ other.signature.namedOnly).map
              Parameter.name) ↔
      other = .update ∧ primitive ∈ [.create, .createMany, .updateMany, .delete] := by
  cases primitive <;> cases other <;> decide

/-- What a method passes on fits another method only in these cases. -/
theorem eq_update_of_bind_passedOn
    {bound shadowBound : Calls.Bound}
    (fits :
      Calls.bind (generated.methodCallee shadow) (passedOn method bound) = .ok shadowBound) :
    shadow.primitive = .update ∧
      method.primitive ∈ [.create, .createMany, .updateMany, .delete] := by
  have knownOnly : (generated.methodCallee shadow).acceptsOthers = false := rfl
  obtain ⟨fitting, -⟩ := (Calls.bind_eq_ok_iff knownOnly).mp fits
  apply (takes_one_more_iff method.primitive shadow.primitive).mp
  constructor
  · have positions := fitting.positions
    simp only [passedOn, GeneratedClass.methodCallee, slotsOf, List.length_cons,
      List.length_map] at positions
    exact positions
  · intro parameter member
    have isNamed :
        parameter.name ∈ (passedOn method bound).named.map Prod.fst := by
      simpa [passedOn] using ⟨parameter, member, rfl⟩
    have known := fitting.known _ isNamed
    rwa [slotNames_methodCallee] at known

/-- The name of a primitive always stands for something. -/
theorem find?_primitive
    (generated : GeneratedClass)
    (primitive : Primitive) :
    generated.find? primitive.name = some (.primitive primitive) ∨
      ∃ shadow, generated.find? primitive.name = some (.method shadow) := by
  unfold GeneratedClass.find?
  split
  · next shadow _ =>
      exact .inr ⟨shadow, rfl⟩
  · exact .inl (by cases primitive <;> rfl)

/-- The table that a primitive is called with is not one of the values that it works with. -/
theorem runPrimitive_withTable
    (primitive : Primitive)
    (table value : Value)
    (bound : Calls.Bound)
    (responses : List Response) :
    runPrimitive primitive table ⟨("table_name", value) :: bound.values, []⟩ responses =
      runPrimitive primitive table bound responses := by
  cases primitive <;> rfl

/-- A method whose primitive is the one of that name runs it for its table. -/
theorem callNamed_eq_runPrimitive
    {name : String}
    (found : generated.find? name = some (.method method))
    (primitiveFound :
      generated.find? method.primitive.name = some (.primitive method.primitive))
    {arguments : Calls.Arguments}
    {bound : Calls.Bound}
    (fits : Calls.bind (generated.methodCallee method) arguments = .ok bound)
    (responses : List Response) :
    generated.callNamed name arguments responses =
      runPrimitive method.primitive (.text method.table) bound responses := by
  have isNew :
      "table_name" ∉ "self" :: (generated.methodCallee method).slotNames := by
    rw [slotNames_methodCallee]
    exact (List.nodup_cons.mp (parameterNames_nodup method.primitive)).1
  rw [callNamed_of_method found, fits]
  dsimp only
  rw [callNamed_of_primitive primitiveFound, callPrimitive_passedOn generated method fits,
    GeneratedClass.callPrimitive, primitiveCallee_eq generated method,
    Calls.bind_withFirst rfl isNew fits]
  exact runPrimitive_withTable _ _ _ _ _

/-- A method that calls another one instead of its primitive is refused, or comes to update a row of
the table of the other one. -/
theorem callNamed_of_shadow
    {name : String}
    (found : generated.find? name = some (.method method))
    (shadowed : generated.find? method.primitive.name = some (.method shadow))
    {arguments : Calls.Arguments}
    {bound : Calls.Bound}
    (fits : Calls.bind (generated.methodCallee method) arguments = .ok bound)
    (responses : List Response) :
    (∃ error, generated.callNamed name arguments responses = .refused (.arguments error)) ∨
      shadow.primitive = .update ∧
        method.primitive ∈ [.create, .createMany, .updateMany, .delete] ∧
        generated.find? shadow.primitive.name = some (.primitive shadow.primitive) ∧
        ∃ passed,
          generated.callNamed name arguments responses =
            runPrimitive .update (.text shadow.table) passed responses := by
  rw [callNamed_of_method found, fits]
  dsimp only
  cases shadowFits : Calls.bind (generated.methodCallee shadow) (passedOn method bound) with
  | error error =>
      rw [callNamed_of_method shadowed, shadowFits]
      exact .inl ⟨error, rfl⟩
  | ok shadowBound =>
      obtain ⟨isUpdate, takesLess⟩ := eq_update_of_bind_passedOn shadowFits
      rcases find?_primitive generated shadow.primitive with isPrimitive | ⟨further, isMethod⟩
      · rw [callNamed_eq_runPrimitive shadowed isPrimitive shadowFits]
        exact .inr ⟨isUpdate, takesLess, isPrimitive, shadowBound, by rw [isUpdate]⟩
      · -- A third method would be given one position more than any method takes.
        rw [callNamed_of_method shadowed, shadowFits]
        dsimp only
        rw [callNamed_of_method isMethod]
        cases furtherFits :
            Calls.bind (generated.methodCallee further) (passedOn shadow shadowBound) with
        | error error =>
            exact .inl ⟨error, rfl⟩
        | ok _ =>
            have takesMore := (eq_update_of_bind_passedOn furtherFits).2
            rw [isUpdate] at takesMore
            simp at takesMore

end Shadows
/-! Some arguments tell the primitives apart by the queries that they lead to. -/

/-- Arguments after the table by which a call of a primitive is told from calls of the others. -/
def tellingArguments : Primitive → List Value
  | .getAll => []
  | .getById => [.null]
  | .create => [.text ""]
  | .createMany => [.text ""]
  | .update => [.null, .null]
  | .updateMany => [.list [.map [(.text "id", .null), (.text "data", .null)]]]
  | .delete => [.null]

/-- The parts of the query that these arguments lead to. -/
def tellingParts : Primitive → List QueryPart
  | .getAll => [.select (.text "*")]
  | .getById => [.select (.text "*"), .compare .equal (.text "id") .null, .single]
  | .create => [.insert (.text "")]
  | .createMany => [.insert (.list [])]
  | .update => [.update .null, .compare .equal (.text "id") .null]
  | .updateMany => [.update .null, .compare .equal (.text "id") .null]
  | .delete => [.delete, .compare .equal (.text "id") .null]

/-- A call of a method by which its primitive is told. -/
def tellingCall
    (method : Forwarder) : Call :=
  ⟨method.name, ⟨tellingArguments method.primitive, []⟩, []⟩

section Telling

variable {generated : GeneratedClass}
variable {method : Forwarder}

theorem queries_tellingCall
    (forwards : generated.Forwards method) :
    (generated.call (tellingCall method)).queries =
      [⟨.text method.table, tellingParts method.primitive, true⟩] := by
  rw [tellingCall, forwards]
  obtain ⟨name, table, primitive⟩ := method
  cases primitive <;> rfl

/-- Only the primitive itself makes that query of the arguments, and only for the table. -/
theorem eq_of_queries_tellingArguments
    {primitive other : Primitive}
    {table otherTable : Value}
    (queries :
      (generated.callPrimitive other ⟨otherTable :: tellingArguments primitive, []⟩ []).queries =
        [⟨table, tellingParts primitive, true⟩]) :
    table = otherTable ∧ primitive = other := by
  cases primitive <;> cases other <;> cases queries <;> exact ⟨rfl, rfl⟩

/-- No primitive makes that query of what the method passes on when a table is put before it: the
only one that takes so much takes the table of the method for the row. -/
theorem queries_passedOn_tellingArguments
    {bound : Calls.Bound}
    (fits :
      Calls.bind (generated.methodCallee method) ⟨tellingArguments method.primitive, []⟩ =
        .ok bound)
    (other : Primitive)
    (table otherTable : Value) :
    (generated.callPrimitive other ((passedOn method bound).withFirst otherTable) []).queries ≠
      [⟨table, tellingParts method.primitive, true⟩] := by
  intro queries
  obtain ⟨name, ownTable, primitive⟩ := method
  cases primitive <;> cases fits <;> cases other <;> cases queries

/-- Methods of one name that both forward are for one table and one primitive. -/
theorem pair_eq_of_forwards
    {other : Forwarder}
    (forwards : generated.Forwards method)
    (otherForwards : generated.Forwards other)
    (sameName : method.name = other.name) :
    (method.table, method.primitive) = (other.table, other.primitive) := by
  have queries := queries_tellingCall forwards
  rw [tellingCall, sameName, otherForwards] at queries
  split at queries
  · cases queries
  · obtain ⟨sameTable, samePrimitive⟩ := eq_of_queries_tellingArguments queries
    rw [Value.text.inj sameTable, samePrimitive]

/-- The name of the primitive of a method that forwards is not the name of another such method. -/
theorem name_ne_of_forwards
    {shadow : Forwarder}
    (found : generated.find? method.name = some (.method method))
    (forwards : generated.Forwards method)
    (shadowForwards : generated.Forwards shadow) :
    shadow.name ≠ method.primitive.name := by
  intro shadows
  -- The method would pass its table on to `shadow`, which puts another one before it.
  have queries := queries_tellingCall forwards
  rw [tellingCall, GeneratedClass.call, callNamed_of_method found] at queries
  dsimp only at queries
  split at queries
  · cases queries
  · next bound fits =>
      rw [← shadows] at queries
      have passed := shadowForwards (passedOn method bound) []
      rw [GeneratedClass.call] at passed
      dsimp only at passed
      rw [passed] at queries
      split at queries
      · cases queries
      · exact queries_passedOn_tellingArguments fits _ _ _ queries

end Telling

section Blocks

variable {plan : NamingPlan}
variable {tables : List String}
variable {blocks : List MethodBlock}

/-- Methods of one name that is kept apart from the names of the primitives forward, and only
they do. -/
theorem forwards_ofBlocks_iff
    (made : blocksOf plan tables = .ok blocks)
    (className : String) :
    (∀ method ∈ forwardersOf blocks,
        (GeneratedClass.ofBlocks className blocks).Forwards (asKnown method)) ↔
      HaveOwnNames ((forwardersOf blocks).map asKnown) ∧
        ∀ method ∈ forwardersOf blocks,
          ∀ primitive : Primitive, Text.normalForm method.name ≠ primitive.name := by
  constructor
  · intro forward
    have ownNames : HaveOwnNames ((forwardersOf blocks).map asKnown) := by
      intro known member other otherMember differentPair sameName
      obtain ⟨method, methodMember, rfl⟩ := List.mem_map.mp member
      obtain ⟨otherMethod, otherMethodMember, rfl⟩ := List.mem_map.mp otherMember
      exact differentPair
        (pair_eq_of_forwards (forward _ methodMember) (forward _ otherMethodMember) sameName)
    refine ⟨ownNames, fun shadow shadowMember primitive shadows => ?_⟩
    have keeps := (keepsMethods_ofBlocks_iff made className).mpr ownNames
    obtain ⟨block, blockMember, _, rfl⟩ := mem_forwardersOf_iff.mp shadowMember
    have methodMember := mem_forwardersOf_iff.mpr ⟨block, blockMember, primitive, rfl⟩
    exact name_ne_of_forwards (keeps _ (List.mem_map_of_mem methodMember))
      (forward _ methodMember) (forward _ shadowMember) shadows
  · -- Both names that a call goes through, its own and that of the primitive, are found.
    rintro ⟨ownNames, free⟩ method member
    have keeps := (keepsMethods_ofBlocks_iff made className).mpr ownNames
    apply forwards_of_find? (keeps _ (List.mem_map_of_mem member))
    rw [find?_primitive_iff, methods_ofBlocks, List.forall_mem_map]
    exact fun shadow shadowMember => free shadow shadowMember _

/-- The comments of blocks, which have the Pascal forms in them, end where their lines end. -/
abbrev HavePlainComments
    (blocks : List MethodBlock) : Prop :=
  ∀ block ∈ blocks,
    '\n' ∉ block.forms.pascal.toList ∧
      '\r' ∉ block.forms.pascal.toList ∧
      '\x00' ∉ block.forms.pascal.toList

/-- A class as the source code of blocks defines it. Nothing is said of code in which a comment goes
on on a further line. -/
structure GeneratedClass.IsDefinedBy
    (generated : GeneratedClass)
    (className : String)
    (blocks : List MethodBlock) : Prop where
  plainComments : HavePlainComments blocks
  isClass : generated = .ofBlocks className blocks

/-- Each table has a method for each primitive, and all of them forward exactly when methods of
different tables or for different primitives have different names in normal form and none of these
names is that of a primitive. -/
theorem blocks_forward_iff
    (made : blocksOf plan tables = .ok blocks)
    {className : String}
    {generated : GeneratedClass}
    (defined : generated.IsDefinedBy className blocks) :
    (∀ table ∈ tables, ∀ primitive,
        ∃ method ∈ forwardersOf blocks, method.table = table ∧ method.primitive = primitive) ∧
      ((∀ method ∈ forwardersOf blocks, generated.Forwards (asKnown method)) ↔
        HaveOwnNames ((forwardersOf blocks).map asKnown) ∧
          ∀ method ∈ forwardersOf blocks,
            ∀ primitive : Primitive, Text.normalForm method.name ≠ primitive.name) := by
  obtain ⟨-, rfl⟩ := defined
  refine ⟨?_, forwards_ofBlocks_iff made className⟩
  intro table member primitive
  rw [← map_table_of_blocksOf made] at member
  obtain ⟨block, blockMember, rfl⟩ := List.mem_map.mp member
  exact ⟨_, mem_forwardersOf_iff.mpr ⟨block, blockMember, primitive, rfl⟩, rfl, rfl⟩

end Blocks

instance (forwarders : List Forwarder) : Decidable (HaveOwnNames forwarders) :=
  inferInstanceAs (Decidable (∀ forwarder ∈ forwarders, ∀ other ∈ forwarders, _ → _))

/-- The methods of two tables that are named by their last letter. -/
private def postAndCommentMethods : List Forwarder :=
  [⟨"getPosts", "post", .getAll⟩, ⟨"getPost", "post", .getById⟩,
    ⟨"createPost", "post", .create⟩, ⟨"createManyPosts", "post", .createMany⟩,
    ⟨"updatePost", "post", .update⟩, ⟨"updateManyPosts", "post", .updateMany⟩,
    ⟨"deletePost", "post", .delete⟩,
    ⟨"getComments", "comment", .getAll⟩, ⟨"getComment", "comment", .getById⟩,
    ⟨"createComment", "comment", .create⟩, ⟨"createManyComments", "comment", .createMany⟩,
    ⟨"updateComment", "comment", .update⟩, ⟨"updateManyComments", "comment", .updateMany⟩,
    ⟨"deleteComment", "comment", .delete⟩]

/-- Two tables all of whose methods forward. -/
theorem blocks_forward_iff_of_two_tables :
    ∃ blocks,
      blocksOf ⟨[], .suffix, .camel⟩ ["post", "comment"] = .ok blocks ∧
        (GeneratedClass.ofBlocks "Api" blocks).IsDefinedBy "Api" blocks ∧
        ∀ method ∈ forwardersOf blocks,
          (GeneratedClass.ofBlocks "Api" blocks).Forwards (asKnown method) := by
  obtain ⟨blocks, made, plain, known⟩ :=
    exists_ok_of_decide (blocksOf ⟨[], .suffix, .camel⟩ ["post", "comment"])
      (fun blocks =>
        HavePlainComments blocks ∧ (forwardersOf blocks).map asKnown = postAndCommentMethods)
      (by decide +kernel)
  have defined : (GeneratedClass.ofBlocks "Api" blocks).IsDefinedBy "Api" blocks := ⟨plain, rfl⟩
  refine ⟨blocks, made, defined, (blocks_forward_iff made defined).2.mpr ⟨?_, ?_⟩⟩
  · rw [known]
    decide +kernel
  · intro method member primitive
    have isKnown : asKnown method ∈ postAndCommentMethods :=
      known ▸ List.mem_map_of_mem member
    have free :
        ∀ method ∈ postAndCommentMethods,
          ∀ primitive ∈ Primitive.all, method.name ≠ primitive.name := by
      decide +kernel
    exact free _ isKnown primitive (Primitive.mem_all primitive)

/-- A name that is put in normal form can become the name of a primitive. The low line of this
table is a wide one, so updating one of its rows is called like updating many rows of any table,
and the methods that update many rows of a table come to update one row of it. -/
theorem blocksOf_wide_low_line_does_not_forward :
    ∃ blocks,
      blocksOf ⟨Naming.Overrides.builtIn, .suffix, .camel⟩ ["posts", "＿many"] = .ok blocks ∧
        (GeneratedClass.ofBlocks "SupabaseApi" blocks).IsDefinedBy "SupabaseApi" blocks ∧
        HaveOwnNames (forwardersOf blocks) ∧
        ¬ ∀ method ∈ forwardersOf blocks,
          (GeneratedClass.ofBlocks "SupabaseApi" blocks).Forwards (asKnown method) := by
  obtain ⟨blocks, made, plain, ownNames, member⟩ :=
    exists_ok_of_decide (blocksOf ⟨Naming.Overrides.builtIn, .suffix, .camel⟩ ["posts", "＿many"])
      (fun blocks =>
        HavePlainComments blocks ∧
          HaveOwnNames (forwardersOf blocks) ∧
          ⟨"update＿many", "＿many", .update⟩ ∈ forwardersOf blocks)
      (by decide +kernel)
  have shadows : Text.normalForm "update＿many" = Primitive.updateMany.name := by decide +kernel
  refine ⟨blocks, made, ⟨plain, rfl⟩, ownNames, fun forward => ?_⟩
  exact ((forwards_ofBlocks_iff made _).mp forward).2 _ member _ shadows

end Tablewright.Access
