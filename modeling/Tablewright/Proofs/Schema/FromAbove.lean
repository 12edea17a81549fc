import Tablewright.Schema.Tables

/-!
# Tables seen from above

Whether a node is a table is decided by looking up from it. The rule can also be read downwards: a
property named `Tables` leads through ascriptions to object types, and the plainly named properties
directly inside these are the tables. The main statement says that both readings list the same
nodes, each once and in the order of the walk.
-/

namespace Tablewright.Schema

/-- The way from a node to a node below it: which child to take at each step. Addresses are ordered
like words in a dictionary, so that a node comes before what is below it, and what is further left
comes before what is further right. -/
abbrev Address := List Nat

namespace Tree

/-- What holds of a node whenever it holds of the nodes directly below it, holds of every tree. -/
@[elab_as_elim]
theorem children_induction
    {holds : Tree → Prop}
    (node :
      ∀ kind children,
        (∀ child ∈ children, holds child) →
        holds (.node kind children)) :
    ∀ tree, holds tree
  | .node kind children =>
      node kind children fun child _ => children_induction node child

/-- The tree below an address. -/
def subtree?
    (tree : Tree) : Address → Option Tree
  | [] => some tree
  | index :: address => tree.children[index]?.bind fun child => child.subtree? address

/-- A tree leads down to the members of an object type: it is the object type, or an ascription
with a node directly below it that leads there. -/
inductive LeadsTo : Tree → Address → List Tree → Prop where
  | objectType
      (members : List Tree) :
      LeadsTo (.node .objectType members) [] members
  | ascription
      {children members : List Tree}
      {index : Nat}
      {child : Tree}
      {address : Address} :
      children[index]? = some child →
      LeadsTo child address members →
      LeadsTo (.node .ascription children) (index :: address) members

/-- A plainly named property directly inside an object type that a tree leads down to. -/
inductive HasMember
    (tree : Tree) : Address → String → Prop where
  | intro
      {inner : Address}
      {members below : List Tree}
      {index : Nat}
      {name : String} :
      tree.LeadsTo inner members →
      members[index]? = some (.node (.property (some name)) below) →
      HasMember tree (inner ++ [index]) name

/-- The tables of a tree by the rule from above: what the nodes directly below a property named
`Tables` have as members. -/
inductive IsTable
    (tree : Tree) : Address → String → Prop where
  | intro
      {holder address : Address}
      {children : List Tree}
      {index : Nat}
      {child : Tree}
      {name : String} :
      tree.subtree? holder = some (.node (.property (some tablesName)) children) →
      children[index]? = some child →
      child.HasMember address name →
      IsTable tree (holder ++ index :: address) name

end Tree

/-! ## The walk with addresses -/

mutual

/-- The tables of a tree below other nodes, with their addresses. -/
def listedBelow
    (ancestors : Ancestors) : Tree → List (Address × String)
  | .node kind children =>
      (tableName? ancestors kind).toList.map (fun name => ([], name)) ++
        listedOfAll (kind :: ancestors) 0 children

/-- The tables of trees below other nodes, the first of which has a given number. -/
def listedOfAll
    (ancestors : Ancestors)
    (index : Nat) : List Tree → List (Address × String)
  | [] => []
  | tree :: rest =>
      (listedBelow ancestors tree).map (fun (address, name) => (index :: address, name)) ++
        listedOfAll ancestors (index + 1) rest

end

/-- The names of the listed tables of several trees are the tables of these. -/
theorem map_snd_listedOfAll
    {ancestors : Ancestors}
    {trees : List Tree}
    (each :
      ∀ tree ∈ trees,
        (listedBelow ancestors tree).map Prod.snd = tablesBelow ancestors tree)
    (index : Nat) :
    (listedOfAll ancestors index trees).map Prod.snd = tablesOfAll ancestors trees := by
  induction trees generalizing index with
  | nil =>
      rfl
  | cons tree rest inductionHypothesis =>
      have first := each tree List.mem_cons_self
      have others :=
        inductionHypothesis (fun other member => each other (List.mem_cons_of_mem _ member))
          (index + 1)
      simp only [listedOfAll, tablesOfAll, List.map_append, List.map_map, others, ← first]
      rfl

/-- The names of the listed tables are the tables. -/
theorem map_snd_listedBelow
    (ancestors : Ancestors)
    (tree : Tree) :
    (listedBelow ancestors tree).map Prod.snd = tablesBelow ancestors tree := by
  induction tree using Tree.children_induction generalizing ancestors with
  | node kind children inductionHypothesis =>
      have below :=
        map_snd_listedOfAll
          (fun child member => inductionHypothesis child member (kind :: ancestors)) 0
      simp only [listedBelow, tablesBelow, List.map_append, List.map_map, below]
      cases tableName? ancestors kind <;> rfl

/-- What is listed of several trees is listed of one of them. -/
theorem mem_listedOfAll_iff
    {ancestors : Ancestors}
    {trees : List Tree}
    {index : Nat}
    {address : Address}
    {name : String} :
    (address, name) ∈ listedOfAll ancestors index trees ↔
      ∃ offset child below,
        trees[offset]? = some child ∧
          address = (index + offset) :: below ∧
          (below, name) ∈ listedBelow ancestors child := by
  induction trees generalizing index with
  | nil =>
      simp [listedOfAll]
  | cons tree rest inductionHypothesis =>
      simp only [listedOfAll, List.mem_append, List.mem_map, Prod.exists, Prod.mk.injEq,
        inductionHypothesis]
      constructor
      · rintro (⟨below, other, listed, rfl, rfl⟩ | ⟨offset, child, below, found, rfl, listed⟩)
        · exact ⟨0, tree, below, rfl, rfl, listed⟩
        · refine ⟨offset + 1, child, below, found, ?_, listed⟩
          rw [Nat.add_assoc, Nat.add_comm 1]
      · rintro ⟨offset, child, below, found, rfl, listed⟩
        cases offset with
        | zero =>
            cases found
            exact Or.inl ⟨below, name, listed, rfl, rfl⟩
        | succ offset =>
            refine Or.inr ⟨offset, child, below, found, ?_, listed⟩
            rw [Nat.add_assoc, Nat.add_comm 1]

/-- Several trees are listed in the order of addresses if each of them is. -/
theorem pairwise_listedOfAll
    {ancestors : Ancestors}
    {trees : List Tree}
    (each :
      ∀ tree ∈ trees,
        ((listedBelow ancestors tree).map Prod.fst).Pairwise (· < ·))
    (index : Nat) :
    ((listedOfAll ancestors index trees).map Prod.fst).Pairwise (· < ·) := by
  induction trees generalizing index with
  | nil =>
      exact List.Pairwise.nil
  | cons tree rest inductionHypothesis =>
      simp only [listedOfAll, List.map_append, List.map_map]
      refine List.pairwise_append.mpr ⟨?_, ?_, ?_⟩
      · have first := each tree List.mem_cons_self
        rw [List.pairwise_map] at first ⊢
        exact first.imp fun before => List.Lex.cons before
      · exact
          inductionHypothesis (fun other member => each other (List.mem_cons_of_mem _ member))
            (index + 1)
      · intro address first other later
        obtain ⟨⟨below, name⟩, -, rfl⟩ := List.mem_map.mp first
        obtain ⟨⟨otherAddress, otherName⟩, listed, rfl⟩ := List.mem_map.mp later
        obtain ⟨offset, child, otherBelow, -, rfl, -⟩ := mem_listedOfAll_iff.mp listed
        exact List.Lex.rel (by omega)

/-- Tables are listed in the order of their addresses, and none is listed twice. -/
theorem pairwise_listedBelow
    (ancestors : Ancestors)
    (tree : Tree) :
    ((listedBelow ancestors tree).map Prod.fst).Pairwise (· < ·) := by
  induction tree using Tree.children_induction generalizing ancestors with
  | node kind children inductionHypothesis =>
      have below :=
        pairwise_listedOfAll
          (fun child member => inductionHypothesis child member (kind :: ancestors)) 0
      simp only [listedBelow, List.map_append, List.map_map]
      refine List.pairwise_append.mpr ⟨?_, below, ?_⟩
      · cases tableName? ancestors kind <;> simp
      · intro address first other later
        obtain ⟨name, -, rfl⟩ := List.mem_map.mp first
        obtain ⟨⟨otherAddress, otherName⟩, listed, rfl⟩ := List.mem_map.mp later
        obtain ⟨offset, child, otherBelow, -, rfl, -⟩ := mem_listedOfAll_iff.mp listed
        exact List.Lex.nil

/-! ## The rule step by step -/

namespace Tree

/-- A member is below the tree that has it. -/
theorem not_hasMember_nil
    {tree : Tree}
    {name : String} :
    ¬ tree.HasMember [] name := by
  intro member
  generalize isEmpty : ([] : Address) = address at member
  cases member
  exact List.append_ne_nil_of_right_ne_nil _ (List.cons_ne_nil _ _) isEmpty.symm

/-- The first step to a member goes through an ascription or out of an object type. -/
theorem hasMember_cons_iff
    {kind : NodeKind}
    {children : List Tree}
    {index : Nat}
    {address : Address}
    {name : String} :
    HasMember (.node kind children) (index :: address) name ↔
      ∃ child,
        children[index]? = some child ∧
          ((kind = .ascription ∧ child.HasMember address name) ∨
            (kind = .objectType ∧ address = [] ∧ child.kind = .property (some name))) := by
  constructor
  · intro member
    generalize shape : index :: address = whole at member
    cases member with
    | @intro inner members below last _ leads found =>
        cases leads with
        | objectType =>
            cases shape
            exact ⟨_, found, Or.inr ⟨rfl, rfl, rfl⟩⟩
        | ascription child leads =>
            cases shape
            exact ⟨_, child, Or.inl ⟨rfl, leads, found⟩⟩
  · rintro ⟨child, found, ⟨rfl, ⟨leads, member⟩⟩ | ⟨rfl, rfl, isProperty⟩⟩
    · exact ⟨.ascription found leads, member⟩
    · cases child with
      | node kind below =>
          cases isProperty
          exact .intro (.objectType children) found

/-- A table is below the tree that has it. -/
theorem not_isTable_nil
    {tree : Tree}
    {name : String} :
    ¬ tree.IsTable [] name := by
  intro table
  generalize isEmpty : ([] : Address) = address at table
  cases table
  exact List.append_ne_nil_of_right_ne_nil _ (List.cons_ne_nil _ _) isEmpty.symm

/-- The first step to a table goes into a tree that has it, or from the property that holds it. -/
theorem isTable_cons_iff
    {kind : NodeKind}
    {children : List Tree}
    {index : Nat}
    {address : Address}
    {name : String} :
    IsTable (.node kind children) (index :: address) name ↔
      ∃ child,
        children[index]? = some child ∧
          (child.IsTable address name ∨
            (kind = .property (some tablesName) ∧ child.HasMember address name)) := by
  constructor
  · intro table
    generalize shape : index :: address = whole at table
    cases table with
    | @intro holder rest types first child _ held found member =>
        cases holder with
        | nil =>
            cases held
            cases shape
            exact ⟨child, found, Or.inr ⟨rfl, member⟩⟩
        | cons step holder =>
            cases shape
            obtain ⟨next, here, deeper⟩ := Option.bind_eq_some_iff.mp held
            exact ⟨next, here, Or.inl (.intro deeper found member)⟩
  · rintro ⟨child, found, table | ⟨rfl, member⟩⟩
    · cases table with
      | @intro holder rest types first inner _ held here member =>
          have heldBelow :
              (Tree.node kind children).subtree? (index :: holder) =
                some (.node (.property (some tablesName)) types) :=
            Option.bind_eq_some_iff.mpr ⟨child, found, held⟩
          exact .intro heldBelow here member
    · have heldHere :
          (Tree.node (.property (some tablesName)) children).subtree? [] =
            some (.node (.property (some tablesName)) children) :=
        rfl
      exact .intro heldHere found member

end Tree

/-- What a tree lists by the nodes above it: its tables, the members that it leads to if a property
that holds tables leads to it, and itself if it is directly inside an object type to which such a
property leads. -/
def IsListed
    (ancestors : Ancestors)
    (tree : Tree)
    (address : Address)
    (name : String) : Prop :=
  tree.IsTable address name ∨
    (holdsTables (ownerOf? ancestors) = true ∧ tree.HasMember address name) ∨
    ∃ outer,
      ancestors = .objectType :: outer ∧
        holdsTables (ownerOf? outer) = true ∧
        address = [] ∧
        tree.kind = .property (some name)

/-- A property holds tables exactly when its plain name is that of such properties. -/
theorem holdsTables_property_iff
    {name? : Option String}
    {ancestors : Ancestors} :
    holdsTables (ownerOf? (.property name? :: ancestors)) = true ↔
      name? = some tablesName := by
  cases name? with
  | none =>
      simp [ownerOf?, holdsTables]
  | some name =>
      simp [ownerOf?, holdsTables]

/-- A node is named as a table exactly when it is a plainly named property directly inside an object
type to which a property that holds tables leads. -/
theorem tableName?_eq_some_iff
    {ancestors : Ancestors}
    {kind : NodeKind}
    {name : String} :
    tableName? ancestors kind = some name ↔
      ∃ outer,
        ancestors = .objectType :: outer ∧
          holdsTables (ownerOf? outer) = true ∧
          kind = .property (some name) := by
  constructor
  · intro named
    unfold tableName? at named
    split at named
    · next other =>
        split at named
        · next outer =>
            split at named
            · next holds =>
                cases named
                exact ⟨outer, rfl, holds, rfl⟩
            · cases named
        · cases named
    · cases named
  · rintro ⟨outer, rfl, holds, rfl⟩
    simp [tableName?, holds]

/-- What a node lists below itself is listed by one of its children, with the node above it. -/
theorem isListed_cons_iff
    {ancestors : Ancestors}
    {kind : NodeKind}
    {children : List Tree}
    {index : Nat}
    {address : Address}
    {name : String} :
    IsListed ancestors (.node kind children) (index :: address) name ↔
      ∃ child,
        children[index]? = some child ∧
          IsListed (kind :: ancestors) child address name := by
  unfold IsListed
  rw [Tree.isTable_cons_iff, Tree.hasMember_cons_iff]
  cases kind with
  | property name? =>
      simp only [holdsTables_property_iff, NodeKind.property.injEq]
      grind
  | objectType =>
      simp only [ownerOf?, holdsTables]
      grind
  | ascription =>
      simp only [ownerOf?]
      grind
  | other =>
      simp only [ownerOf?, holdsTables]
      grind

/-- The walk below other nodes lists what the rule from above says of a tree in that place. -/
theorem mem_listedBelow_iff
    {ancestors : Ancestors}
    {tree : Tree}
    {address : Address}
    {name : String} :
    (address, name) ∈ listedBelow ancestors tree ↔ IsListed ancestors tree address name := by
  induction tree using Tree.children_induction generalizing ancestors address with
  | node kind children inductionHypothesis =>
      have own :
          (address, name) ∈ (tableName? ancestors kind).toList.map (fun name => ([], name)) ↔
            address = [] ∧ tableName? ancestors kind = some name := by
        cases tableName? ancestors kind <;> simp [eq_comm]
      simp only [listedBelow, List.mem_append, own, mem_listedOfAll_iff,
        tableName?_eq_some_iff, Nat.zero_add]
      cases address with
      | nil =>
          simp [IsListed, Tree.not_isTable_nil, Tree.not_hasMember_nil, Tree.kind]
      | cons index address =>
          rw [isListed_cons_iff]
          constructor
          · rintro (⟨isEmpty, -⟩ | ⟨offset, child, below, found, shape, listed⟩)
            · cases isEmpty
            · cases shape
              exact ⟨child, found,
                (inductionHypothesis child (List.mem_of_getElem? found)).mp listed⟩
          · rintro ⟨child, found, listed⟩
            exact Or.inr ⟨index, child, address, found, rfl,
              (inductionHypothesis child (List.mem_of_getElem? found)).mpr listed⟩

/-- The tables of a tree are the nodes that the rule from above calls tables, each listed once by its
plain name, in the order of the walk. -/
theorem tables_eq_listed_from_above
    (tree : Tree) :
    ∃ listed : List (Address × String),
      tree.tables = listed.map Prod.snd ∧
        (listed.map Prod.fst).Pairwise (· < ·) ∧
        ∀ address name, (address, name) ∈ listed ↔ tree.IsTable address name := by
  refine ⟨listedBelow [] tree, (map_snd_listedBelow [] tree).symm,
    pairwise_listedBelow [] tree, ?_⟩
  intro address name
  rw [mem_listedBelow_iff]
  simp [IsListed, ownerOf?, holdsTables]

end Tablewright.Schema
