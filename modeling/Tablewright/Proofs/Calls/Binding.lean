import Tablewright.Calls.Binding

/-!
# What fits a callee

Arguments fit when their names are known and each parameter is filled once, when there are not too
many positions, and when only parameters with a value of their own are left open. What a call of
one function was bound to can be passed on to another that has one parameter more.
-/

namespace Tablewright.Calls

/-- The parameters of a callee, those filled by name only at the end. -/
def Callee.slots
    (callee : Callee) : List Slot :=
  callee.positional ++ callee.namedOnly

def Callee.slotNames
    (callee : Callee) : List String :=
  callee.slots.map Slot.name

/-- What a call fills by position, the object first. -/
def filledByPosition
    (callee : Callee)
    (arguments : Arguments) : Filled :=
  ("self", .null) :: (callee.positional.map Slot.name).zip arguments.positional

/-- Everything that a call fills. -/
def filling
    (callee : Callee)
    (arguments : Arguments) : Filled :=
  filledByPosition callee arguments ++ arguments.named

/-- Whether a parameter may be left as it is. -/
def Slot.IsSettled
    (slot : Slot)
    (filled : Filled) : Prop :=
  slot.name ∈ filled.map Prod.fst ∨ slot.default?.isSome

/-- Arguments that fit a callee which takes known names only. -/
structure Fits
    (callee : Callee)
    (arguments : Arguments) : Prop where
  known : ∀ name ∈ arguments.named.map Prod.fst, name ∈ "self" :: callee.slotNames
  once : (arguments.named.map Prod.fst).Nodup
  fresh :
    ∀ name ∈ arguments.named.map Prod.fst,
      name ∉ (filledByPosition callee arguments).map Prod.fst
  positions : arguments.positional.length ≤ callee.positional.length
  complete : ∀ slot ∈ callee.slots, slot.IsSettled (filling callee arguments)

section Lookups

variable {filled : Filled}
variable {name : String}

theorem isSome_lookup_iff :
    (filled.lookup name).isSome = true ↔ name ∈ filled.map Prod.fst := by
  simp [List.lookup_isSome_iff]

theorem openSlots_eq_nil_iff
    {slots : List Slot} :
    openSlots slots filled = [] ↔ ∀ slot ∈ slots, slot.IsSettled filled := by
  simp only [openSlots, List.map_eq_nil_iff, List.filter_eq_nil_iff, Slot.IsSettled,
    ← isSome_lookup_iff]
  apply forall₂_congr
  intro slot _
  cases filled.lookup slot.name <;> cases slot.default? <;> simp

end Lookups

/-- What is given under a name, as often as it is given. -/
def valuesOf
    (filled : Filled)
    (name : String) : List Value :=
  (filled.filter fun entry => entry.1 = name).map Prod.snd

theorem lookup_eq_head?_valuesOf
    (filled : Filled)
    (name : String) :
    filled.lookup name = (valuesOf filled name).head? := by
  induction filled with
  | nil =>
      rfl
  | cons entry rest inductionHypothesis =>
      rw [List.lookup_cons]
      by_cases isName : entry.1 = name
      · simp [valuesOf, isName]
      · have differs : (name == entry.1) = false := beq_eq_false_iff_ne.mpr (Ne.symm isName)
        rw [differs, inductionHypothesis]
        simp [valuesOf, isName]

theorem count_eq_length_valuesOf
    (filled : Filled)
    (name : String) :
    (filled.map Prod.fst).count name = (valuesOf filled name).length := by
  rw [valuesOf, List.length_map, List.count, List.countP_map, List.countP_eq_length_filter]
  rfl

theorem valuesOf_append
    (filled others : Filled)
    (name : String) :
    valuesOf (filled ++ others) name = valuesOf filled name ++ valuesOf others name := by
  rw [valuesOf, List.filter_append, List.map_append]
  rfl

/-- Leaving out what is given under other names leaves what is given under a name. -/
theorem valuesOf_filter
    (kept : String → Bool)
    {name : String}
    (isKept : kept name = true)
    (filled : Filled) :
    valuesOf (filled.filter fun entry => kept entry.1) name = valuesOf filled name := by
  rw [valuesOf, valuesOf, List.filter_filter]
  congr 1
  refine List.filter_congr fun entry _ => ?_
  by_cases isName : entry.1 = name <;> simp [isName, isKept]

/-- Filling by name succeeds for a callee that takes known names only exactly when the names are
known and new, and it fills in their order. -/
theorem fillNamed_eq_ok_iff
    {callee : Callee}
    (knownOnly : callee.acceptsOthers = false)
    {names : List String}
    {named filled filled' others others' : Filled} :
    fillNamed callee names filled others named = .ok (filled', others') ↔
      (∀ name ∈ named.map Prod.fst, name ∈ names) ∧
        (named.map Prod.fst).Nodup ∧
        (∀ name ∈ named.map Prod.fst, name ∉ filled.map Prod.fst) ∧
        filled' = filled ++ named ∧
        others' = others := by
  -- A name that is filled is one of the earlier entries for the names after it.
  induction named generalizing filled with
  | nil =>
      simp [fillNamed, eq_comm]
  | cons entry rest inductionHypothesis =>
      obtain ⟨name, value⟩ := entry
      simp only [fillNamed, knownOnly, List.contains_iff_mem, isSome_lookup_iff, List.map_cons,
        List.forall_mem_cons, List.nodup_cons]
      by_cases isKnown : name ∈ names
      case neg => simp [isKnown]
      by_cases isFilled : name ∈ filled.map Prod.fst
      case pos => simp [isKnown, isFilled]
      simp only [isKnown, isFilled, if_true, if_false, inductionHypothesis, true_and,
        not_false_eq_true, List.map_append, List.map_cons, List.map_nil, List.mem_append,
        List.mem_singleton, not_or, List.append_assoc, List.singleton_append]
      constructor
      · rintro ⟨known, once, fresh, fills, passes⟩
        exact ⟨known, ⟨fun again => (fresh name again).2 rfl, once⟩,
          fun other member => (fresh other member).1, fills, passes⟩
      · rintro ⟨known, ⟨new, once⟩, fresh, fills, passes⟩
        refine ⟨known, once, fun other member => ⟨fresh other member, ?_⟩, fills, passes⟩
        rintro rfl
        exact new member

/-- Filling by name succeeds for a callee that keeps other names when no parameter is filled twice. It
fills in the order of the names, and keeps the others in theirs. -/
theorem fillNamed_of_acceptsOthers
    {callee : Callee}
    (keepsOthers : callee.acceptsOthers = true)
    {names : List String}
    {named filled others : Filled}
    (once : ∀ name ∈ names, ((filled ++ named).map Prod.fst).count name ≤ 1) :
    fillNamed callee names filled others named =
      .ok (filled ++ named.filter fun entry => entry.1 ∈ names,
        others ++ named.filter fun entry => entry.1 ∉ names) := by
  induction named generalizing filled others with
  | nil =>
      simp [fillNamed]
  | cons entry rest inductionHypothesis =>
      obtain ⟨name, value⟩ := entry
      by_cases isKnown : name ∈ names
      · have isNew : name ∉ filled.map Prod.fst := by
          intro isFilled
          have twice := once name isKnown
          have before := List.count_pos_iff.mpr isFilled
          simp only [List.map_append, List.map_cons, List.count_append, List.count_cons_self]
            at twice
          omega
        have onceMore :
            ∀ other ∈ names,
              (((filled ++ [(name, value)]) ++ rest).map Prod.fst).count other ≤ 1 := by
          simpa using once
        rw [← isSome_lookup_iff, Bool.not_eq_true] at isNew
        simp [fillNamed, isKnown, isNew, inductionHypothesis onceMore]
      · have onceLater :
            ∀ other ∈ names, ((filled ++ rest).map Prod.fst).count other ≤ 1 := by
          intro other isOther
          have within : (filled ++ rest).Sublist (filled ++ (name, value) :: rest) :=
            (List.sublist_cons_self _ rest).append_left filled
          exact Nat.le_trans ((within.map Prod.fst).count_le other) (once other isOther)
        simp [fillNamed, isKnown, keepsOthers, inductionHypothesis onceLater]

/-- Once the names are filled and the positions are not too many, a call is bound exactly when no
parameter is left open. -/
private theorem bind_eq_ok_iff_of_fillNamed
    {callee : Callee}
    {arguments : Arguments}
    {filled others : Filled}
    (fills :
      fillNamed callee ("self" :: callee.slotNames) (filledByPosition callee arguments) []
        arguments.named = .ok (filled, others))
    (positions : arguments.positional.length ≤ callee.positional.length)
    {bound : Bound} :
    bind callee arguments = .ok bound ↔
      (∀ slot ∈ callee.slots, slot.IsSettled filled) ∧
        bound = ⟨callee.slots.map fun slot => (slot.name, slot.value filled), others⟩ := by
  have unfolded :
      bind callee arguments =
        if openSlots callee.positional filled = [] then
          if openSlots callee.namedOnly filled = [] then
            .ok ⟨callee.slots.map fun slot => (slot.name, slot.value filled), others⟩
          else .error (.missing callee.title true (openSlots callee.namedOnly filled))
        else .error (.missing callee.title false (openSlots callee.positional filled)) := by
    unfold Callee.slotNames Callee.slots filledByPosition at fills
    simp only [bind, fills, Nat.not_lt.mpr positions, if_false, Bind.bind, Except.bind]
    cases openSlots callee.positional filled <;> cases openSlots callee.namedOnly filled <;> rfl
  rw [unfolded, Callee.slots, List.forall_mem_append, ← openSlots_eq_nil_iff,
    ← openSlots_eq_nil_iff]
  by_cases positionalSettled : openSlots callee.positional filled = []
  case neg => simp [positionalSettled]
  by_cases namedSettled : openSlots callee.namedOnly filled = []
  case neg => simp [positionalSettled, namedSettled]
  simp [positionalSettled, namedSettled, eq_comm]

/-- A call is bound exactly when its arguments fit, and then each parameter has what it was filled
with or else its own value. -/
theorem bind_eq_ok_iff
    {callee : Callee}
    (knownOnly : callee.acceptsOthers = false)
    {arguments : Arguments}
    {bound : Bound} :
    bind callee arguments = .ok bound ↔
      Fits callee arguments ∧
        bound =
          ⟨callee.slots.map fun slot => (slot.name, slot.value (filling callee arguments)), []⟩ := by
  constructor
  · intro binds
    have positions := length_le_of_bind binds
    cases fills :
        fillNamed callee ("self" :: callee.slotNames) (filledByPosition callee arguments) []
          arguments.named with
    | error reason =>
        unfold Callee.slotNames Callee.slots filledByPosition at fills
        simp only [bind, fills] at binds
        cases binds
    | ok result =>
        obtain ⟨filled, others⟩ := result
        obtain ⟨known, once, fresh, rfl, rfl⟩ := (fillNamed_eq_ok_iff knownOnly).mp fills
        obtain ⟨complete, isBound⟩ := (bind_eq_ok_iff_of_fillNamed fills positions).mp binds
        exact ⟨⟨known, once, fresh, positions, complete⟩, isBound⟩
  · rintro ⟨fits, rfl⟩
    have fills :
        fillNamed callee ("self" :: callee.slotNames) (filledByPosition callee arguments) []
          arguments.named = .ok (filling callee arguments, []) :=
      (fillNamed_eq_ok_iff knownOnly).mpr ⟨fits.known, fits.once, fits.fresh, rfl, rfl⟩
    exact (bind_eq_ok_iff_of_fillNamed fills fits.positions).mpr ⟨fits.complete, rfl⟩

/-- What is filled by a name that is known does not depend on the other names. -/
theorem lookup_known
    {callee : Callee}
    {name : String}
    (isKnown : name ∈ "self" :: callee.slotNames)
    (arguments : Arguments) :
    (filledByPosition callee arguments ++
        arguments.named.filter fun entry => entry.1 ∈ "self" :: callee.slotNames).lookup name =
      (filling callee arguments).lookup name := by
  have keepsKnown :=
    valuesOf_filter (· ∈ "self" :: callee.slotNames) (decide_eq_true isKnown)
      arguments.named
  rw [filling, lookup_eq_head?_valuesOf, lookup_eq_head?_valuesOf, valuesOf_append, valuesOf_append,
    keepsKnown]

/-- Names that are not known are kept with what is passed for them. -/
theorem lookup_unknown
    {callee : Callee}
    {name : String}
    (isOther : name ∉ "self" :: callee.slotNames)
    (named : Filled) :
    (named.filter fun entry => entry.1 ∉ "self" :: callee.slotNames).lookup name =
      named.lookup name := by
  have keepsOther :=
    valuesOf_filter (· ∉ "self" :: callee.slotNames) (decide_eq_true isOther) named
  rw [lookup_eq_head?_valuesOf, lookup_eq_head?_valuesOf, keepsOther]

/-- A call of a callee that keeps other names is bound when there are not too many positions, no
parameter is filled twice and none is left open that has no value of its own. -/
theorem bind_of_acceptsOthers
    {callee : Callee}
    (keepsOthers : callee.acceptsOthers = true)
    {arguments : Arguments}
    (positions : arguments.positional.length ≤ callee.positional.length)
    (once :
      ∀ name ∈ "self" :: callee.slotNames, (valuesOf (filling callee arguments) name).length ≤ 1)
    (complete : ∀ slot ∈ callee.slots, slot.IsSettled (filling callee arguments)) :
    bind callee arguments =
      .ok
        ⟨callee.slots.map fun slot => (slot.name, slot.value (filling callee arguments)),
          arguments.named.filter fun entry => entry.1 ∉ "self" :: callee.slotNames⟩ := by
  have onceByName :
      ∀ name ∈ "self" :: callee.slotNames,
        ((filledByPosition callee arguments ++ arguments.named).map Prod.fst).count name ≤ 1 := by
    intro name isKnown
    rw [count_eq_length_valuesOf]
    exact once name isKnown
  have fills :
      fillNamed callee ("self" :: callee.slotNames) (filledByPosition callee arguments) []
          arguments.named =
        .ok
          (filledByPosition callee arguments ++
              arguments.named.filter fun entry => entry.1 ∈ "self" :: callee.slotNames,
            arguments.named.filter fun entry => entry.1 ∉ "self" :: callee.slotNames) :=
    fillNamed_of_acceptsOthers keepsOthers onceByName
  have isKnown : ∀ slot ∈ callee.slots, slot.name ∈ "self" :: callee.slotNames :=
    fun slot member => List.mem_cons_of_mem _ (List.mem_map_of_mem member)
  refine (bind_eq_ok_iff_of_fillNamed fills positions).mpr ⟨fun slot member => ?_, ?_⟩
  · have settled := complete slot member
    rw [Slot.IsSettled, ← isSome_lookup_iff] at settled ⊢
    rwa [lookup_known (isKnown slot member)]
  · congr 1
    refine List.map_congr_left fun slot member => ?_
    rw [Slot.value, Slot.value, lookup_known (isKnown slot member)]

/-- The callee with one parameter more, which comes first and has to be filled. -/
def Callee.withFirst
    (callee : Callee)
    (title first : String) : Callee :=
  { callee with title := title, positional := ⟨first, none⟩ :: callee.positional }

/-- The arguments with one more, which comes first. -/
def Arguments.withFirst
    (arguments : Arguments)
    (value : Value) : Arguments :=
  { arguments with positional := value :: arguments.positional }

section WithFirst

variable {callee : Callee}
variable {arguments : Arguments}
variable {first : String}

private theorem lookup_filling_withFirst_same
    (notSelf : first ≠ "self")
    (title : String)
    (value : Value) :
    (filling (callee.withFirst title first) (arguments.withFirst value)).lookup first =
      some value := by
  simp [filling, filledByPosition, Callee.withFirst, Arguments.withFirst, List.lookup_cons,
    beq_eq_false_iff_ne.mpr notSelf]

private theorem lookup_filling_withFirst_other
    {name : String}
    (differs : name ≠ first)
    (title : String)
    (value : Value) :
    (filling (callee.withFirst title first) (arguments.withFirst value)).lookup name =
      (filling callee arguments).lookup name := by
  simp [filling, filledByPosition, Callee.withFirst, Arguments.withFirst, List.lookup_cons,
    beq_eq_false_iff_ne.mpr differs]

/-- Arguments that fit a callee fit it with one parameter and one argument more. -/
theorem Fits.withFirst
    (fits : Fits callee arguments)
    (isNew : first ∉ "self" :: callee.slotNames)
    (title : String)
    (value : Value) :
    Fits (callee.withFirst title first) (arguments.withFirst value) where
  known name member := by
    rcases List.mem_cons.mp (fits.known name member) with isSelf | isSlot
    · exact List.mem_cons.mpr (.inl isSelf)
    · exact List.mem_cons_of_mem _ (List.mem_cons_of_mem _ isSlot)
  once := fits.once
  fresh name member := by
    have notFilled := fits.fresh name member
    have notFirst : name ≠ first := by
      rintro rfl
      exact isNew (fits.known _ member)
    simp only [filledByPosition, Callee.withFirst, Arguments.withFirst, List.map_cons,
      List.zip_cons_cons, List.mem_cons, not_or] at notFilled ⊢
    exact ⟨notFilled.1, notFirst, notFilled.2⟩
  positions := Nat.succ_le_succ fits.positions
  complete := by
    obtain ⟨notSelf, notSlot⟩ := not_or.mp (mt List.mem_cons.mpr isNew)
    have slotsWithFirst :
        (callee.withFirst title first).slots = ⟨first, none⟩ :: callee.slots := rfl
    rw [slotsWithFirst, List.forall_mem_cons]
    refine ⟨.inl (isSome_lookup_iff.mp ?_), fun slot member => ?_⟩
    · rw [lookup_filling_withFirst_same notSelf, Option.isSome_some]
    · have differs : slot.name ≠ first := ne_of_mem_of_not_mem (List.mem_map_of_mem member) notSlot
      have settled := fits.complete slot member
      rw [Slot.IsSettled, ← isSome_lookup_iff] at settled ⊢
      rwa [lookup_filling_withFirst_other differs]

/-- With one parameter and one argument more, the other parameters are bound as before. -/
theorem bind_withFirst
    (knownOnly : callee.acceptsOthers = false)
    (isNew : first ∉ "self" :: callee.slotNames)
    {bound : Bound}
    (binds : bind callee arguments = .ok bound)
    (title : String)
    (value : Value) :
    bind (callee.withFirst title first) (arguments.withFirst value) =
      .ok ⟨(first, value) :: bound.values, []⟩ := by
  obtain ⟨fits, rfl⟩ := (bind_eq_ok_iff knownOnly).mp binds
  obtain ⟨notSelf, notSlot⟩ := not_or.mp (mt List.mem_cons.mpr isNew)
  have slotsWithFirst :
      (callee.withFirst title first).slots = ⟨first, none⟩ :: callee.slots := rfl
  have sameValues : ∀ slot ∈ callee.slots,
      (slot.name, slot.value (filling callee arguments)) =
        (slot.name,
          slot.value (filling (callee.withFirst title first) (arguments.withFirst value))) := by
    intro slot member
    have differs : slot.name ≠ first := ne_of_mem_of_not_mem (List.mem_map_of_mem member) notSlot
    rw [Slot.value, Slot.value, lookup_filling_withFirst_other differs]
  have stillKnownOnly : (callee.withFirst title first).acceptsOthers = false := knownOnly
  refine (bind_eq_ok_iff stillKnownOnly).mpr ⟨fits.withFirst isNew title value, ?_⟩
  rw [slotsWithFirst, List.map_cons, List.map_congr_left sameValues]
  simp [Slot.value, lookup_filling_withFirst_same notSelf]

end WithFirst

section Passing

/-- What a call was bound to, as arguments for a callee. -/
def Bound.argumentsFor
    (bound : Bound)
    (callee : Callee) : Arguments where
  positional := callee.positional.map fun slot => bound.get slot.name
  named := callee.namedOnly.map fun slot => (slot.name, bound.get slot.name)

private theorem lookup_of_mem
    {filled : Filled}
    (apart : (filled.map Prod.fst).Nodup)
    {entry : String × Value}
    (member : entry ∈ filled) :
    filled.lookup entry.1 = some entry.2 := by
  obtain ⟨before, after, rfl⟩ := List.append_of_mem member
  rw [List.map_append, List.map_cons, List.nodup_append] at apart
  obtain ⟨-, -, disjoint⟩ := apart
  refine List.lookup_eq_some_iff.mpr ⟨before, after, rfl, fun other earlier => ?_⟩
  exact bne_iff_ne.mpr
    (disjoint other.1 (List.mem_map_of_mem earlier) entry.1 List.mem_cons_self).symm

theorem Bound.map_get
    (bound : Bound)
    (apart : (bound.values.map Prod.fst).Nodup) :
    (bound.values.map Prod.fst).map (fun name => (name, bound.get name)) = bound.values := by
  rw [List.map_map]
  refine (List.map_congr_left fun entry member => ?_).trans (List.map_id _)
  have found := lookup_of_mem apart member
  simp [Bound.get, found]

variable {callee : Callee}

private theorem filling_argumentsFor
    (callee : Callee)
    (bound : Bound) :
    filling callee (bound.argumentsFor callee) =
      ("self", .null) :: callee.slots.map fun slot => (slot.name, bound.get slot.name) := by
  simp [filling, filledByPosition, Bound.argumentsFor, Callee.slots, List.zip_map']

private theorem filling_argumentsFor_names
    (callee : Callee)
    (bound : Bound) :
    (filling callee (bound.argumentsFor callee)).map Prod.fst = "self" :: callee.slotNames := by
  simp [filling_argumentsFor, Callee.slotNames, Function.comp_def]

/-- What is passed on fits when no two parameters have one name. -/
theorem fits_argumentsFor
    (apart : ("self" :: callee.slotNames).Nodup)
    (bound : Bound) :
    Fits callee (bound.argumentsFor callee) := by
  have byPosition :
      (filledByPosition callee (bound.argumentsFor callee)).map Prod.fst =
        "self" :: callee.positional.map Slot.name := by
    simp [filledByPosition, Bound.argumentsFor, List.zip_map', Function.comp_def]
  have byName :
      (bound.argumentsFor callee).named.map Prod.fst = callee.namedOnly.map Slot.name := by
    simp [Bound.argumentsFor, Function.comp_def]
  have splitNames :
      "self" :: callee.slotNames =
        ("self" :: callee.positional.map Slot.name) ++ callee.namedOnly.map Slot.name := by
    simp [Callee.slotNames, Callee.slots]
  obtain ⟨-, namedApart, disjoint⟩ := List.nodup_append.mp (splitNames ▸ apart)
  constructor
  case known =>
    rw [byName, splitNames]
    exact fun name member => List.mem_append_right _ member
  case once =>
    rwa [byName]
  case fresh =>
    rw [byName, byPosition]
    exact fun name member isFilled => disjoint name isFilled name member rfl
  case positions =>
    simp [Bound.argumentsFor]
  case complete =>
    intro slot member
    left
    rw [filling_argumentsFor_names]
    exact List.mem_cons_of_mem _ (List.mem_map_of_mem member)

/-- Each parameter is bound once more to what it was bound to, when everything is passed on. -/
theorem bind_argumentsFor
    (knownOnly : callee.acceptsOthers = false)
    (apart : ("self" :: callee.slotNames).Nodup)
    {bound : Bound}
    (forSlots : bound.values.map Prod.fst = callee.slotNames) :
    bind callee (bound.argumentsFor callee) = .ok ⟨bound.values, []⟩ := by
  have fillingApart :
      ((filling callee (bound.argumentsFor callee)).map Prod.fst).Nodup := by
    rwa [filling_argumentsFor_names]
  have namesApart : (bound.values.map Prod.fst).Nodup := by
    rw [forSlots]
    exact (List.nodup_cons.mp apart).2
  have sameValue : ∀ slot ∈ callee.slots,
      slot.value (filling callee (bound.argumentsFor callee)) = bound.get slot.name := by
    intro slot member
    have isFilled :
        (slot.name, bound.get slot.name) ∈ filling callee (bound.argumentsFor callee) := by
      rw [filling_argumentsFor]
      exact List.mem_cons_of_mem _ (List.mem_map.mpr ⟨slot, member, rfl⟩)
    rw [Slot.value, lookup_of_mem fillingApart isFilled]
  have boundBack :
      callee.slots.map (fun slot =>
          (slot.name, slot.value (filling callee (bound.argumentsFor callee)))) =
        bound.values := by
    calc
      _ = callee.slots.map fun slot => (slot.name, bound.get slot.name) :=
        List.map_congr_left fun slot member => by rw [sameValue slot member]
      _ = callee.slotNames.map fun name => (name, bound.get name) := by
        simp [Callee.slotNames]
      _ = bound.values := by
        rw [← forSlots, bound.map_get namesApart]
  exact (bind_eq_ok_iff knownOnly).mpr ⟨fits_argumentsFor apart bound, by rw [boundBack]⟩

end Passing

end Tablewright.Calls
