import Tablewright.Proofs.Access.Reading

/-!
# Pages

With a limit, a call reads one page of the rows. Its range has as many rows as the limit says, the
pages follow one another without gaps, and the rest of the query is the same for all of them. So
every row is on one page.
-/

namespace Tablewright

namespace Value

/-- A whole number is given as such or as a truth value. -/
theorem number?_eq_whole_iff
    {value : Value}
    {n : Int} :
    value.number? = some (.whole n) ↔
      value = .int n ∨ ∃ b, value = .bool b ∧ n = if b then 1 else 0 := by
  cases value with
  | int m =>
      simp [number?]
  | bool b =>
      simp [number?, eq_comm]
  | null | float _ | text _ | bytes _ | date _ | moment _ | pair _ _ | list _ | map _ | set _
  | enclosing _ =>
      simp [number?]

/-- Zero that counts as false is zero. -/
theorem number?_orElse_zero
    {value : Value}
    {n : Int}
    (isWhole : value.number? = some (.whole n)) :
    (Access.orElse value (.int 0)).number? = some (.whole n) := by
  rcases number?_eq_whole_iff.mp isWhole with rfl | ⟨b, rfl, rfl⟩
  · by_cases isZero : n = 0
    · subst n
      rfl
    · simp [Access.orElse, isTruthy, isZero, number?]
  · cases b <;> rfl

section Whole

variable {a b : Value}
variable {m n : Int}

theorem mul_of_whole
    (left : a.number? = some (.whole m))
    (right : b.number? = some (.whole n)) :
    mul a b = .ok (.int (m * n)) := by
  simp [mul, left, right, combine]

theorem add_of_whole
    (right : b.number? = some (.whole n)) :
    add (.int m) b = .ok (.int (m + n)) := by
  have left : (Value.int m).number? = some (.whole m) := rfl
  simp [add, left, right, combine]

end Whole

end Value

namespace Access

/-- What can be given as a filter: a mapping, or what counts as false. -/
def IsFilter
    (filters : Value) : Prop :=
  filters.isTruthy = false ∨ ∃ columns, filters = .map columns

theorem fault?_filterDraft
    {filters : Value}
    (accepted : IsFilter filters) :
    (filterDraft filters).fault? = none := by
  rcases accepted with countsAsFalse | ⟨columns, rfl⟩
  · simp [filterDraft, countsAsFalse, Draft.ofParts]
  · rw [filterDraft_map]
    rfl

/-- The calls for a filter do not pick a page. -/
theorem ne_range_of_mem_filterDraft
    {filters : Value}
    {call : QueryCall}
    (member : call ∈ (filterDraft filters).calls) :
    call.1 ≠ "range" := by
  obtain ⟨part, isPart, rfl⟩ := List.mem_map.mp member
  obtain ⟨column, comparison, operand, rfl⟩ := exists_column_of_mem_filterDraft isPart
  cases comparison <;> simp [QueryPart.call, QueryPart.name, Comparison.name]

/-- The bounds of a page are computed from whole numbers. -/
theorem pageBounds_of_whole
    {limit page : Value}
    {size index : Int}
    (isSize : limit.number? = some (.whole size))
    (isIndex : page.number? = some (.whole index)) :
    pageBounds limit page = .ok (.int (index * size), .int (index * size + size - 1)) := by
  have offset : Value.mul (orElse page (.int 0)) limit = .ok (.int (index * size)) :=
    Value.mul_of_whole (Value.number?_orElse_zero isIndex) isSize
  have bound : Value.add (.int (index * size)) limit = .ok (.int (index * size + size)) :=
    Value.add_of_whole isSize
  simp only [pageBounds, offset, bound, bind, Except.bind]
  rfl

/-- The call that picks rows, from the first to the last. -/
def rangeCall
    (first last : Int) : QueryCall :=
  ("range", [.int first, .int last])

namespace RowRequest

variable {request : RowRequest}

/-- The calls on a query that no page is picked for. -/
def callsForAll
    (request : RowRequest) : List QueryCall :=
  request.selectCall :: (filterDraft request.filters).calls

/-- Calls that ask for this make one query of these calls, which is executed unless the client fails
on the way. -/
def Makes
    (request : RowRequest)
    (calls : List QueryCall) : Prop :=
  ∀ generated arguments responses,
    request.IsMadeBy generated arguments →
    ∃ query,
      (generated.callPrimitive .getAll arguments responses).queries = [query] ∧
        query.IsMadeOf request.table calls responses ∧
        (query.executed = true ↔ ¬ Interrupts responses calls.length)

/-- A page is picked by the last call, which is a range behind the calls for all rows. -/
theorem makes_page
    (accepted : IsFilter request.filters)
    {size index : Int}
    (isSize : request.limit.number? = some (.whole size))
    (isIndex : request.page.number? = some (.whole index)) :
    request.Makes
      (request.callsForAll ++ [rangeCall (index * size) (index * size + size - 1)]) := by
  have limited : request.limit ≠ .null := by
    intro isNull
    rw [isNull] at isSize
    cases isSize
  have pageParts :
      pageDraft request.limit request.page =
        .ofParts [.range (.int (index * size)) (.int (index * size + size - 1))] := by
    simp [pageDraft, pageBounds_of_whole isSize isIndex, Draft.ofExcept, Draft.ofParts, Except.map]
  have draftShape :
      request.draft =
        .ofParts
          (.select (columnsOf request.select) ::
            ((filterDraft request.filters).parts ++
              [.range (.int (index * size)) (.int (index * size + size - 1))])) := by
    simp [draft, getAllDraft, pageParts, Draft.andThen, Draft.ofParts, fault?_filterDraft accepted]
  have calls :
      request.draft.calls =
        request.callsForAll ++ [rangeCall (index * size) (index * size + size - 1)] := by
    simp [draftShape, Draft.calls, Draft.ofParts, callsForAll, selectCall, rangeCall,
      QueryPart.call, QueryPart.name, QueryPart.arguments]
  intro generated arguments responses made
  obtain ⟨query, isOnly, isMade, executed⟩ := exists_query_of_isMadeBy made responses
  have complete : request.draft.fault? = none := by
    rw [draftShape]
    rfl
  rw [calls] at isMade executed
  exact ⟨query, isOnly, isMade, executed.trans (and_iff_right complete)⟩

theorem ne_range_of_mem_callsForAll
    {call : QueryCall}
    (member : call ∈ request.callsForAll) :
    call.1 ≠ "range" := by
  rcases List.mem_cons.mp member with rfl | forFilter
  · simp [selectCall]
  · exact ne_range_of_mem_filterDraft forFilter

end RowRequest

/-- A row is on the page whose number is how many full pages come before it. -/
theorem existsUnique_page
    {size : Int}
    (positive : 1 ≤ size)
    (row : Nat) :
    ∃! index : Nat, (index : Int) * size ≤ row ∧ (row : Int) ≤ index * size + size - 1 := by
  obtain ⟨count, rfl⟩ := Int.eq_ofNat_of_zero_le (by omega : 0 ≤ size)
  have some : 0 < count := by omega
  have isOn :
      ∀ index : Nat,
        (index : Int) * count ≤ row ∧ (row : Int) ≤ index * count + count - 1 ↔
          index * count ≤ row ∧ row < (index + 1) * count := by
    intro index
    rw [Nat.succ_mul]
    omega
  refine ⟨row / count, (isOn _).mpr ⟨Nat.div_mul_le_self row count, ?_⟩, ?_⟩
  · exact Nat.lt_mul_of_div_lt (Nat.lt_succ_self _) some
  · intro index onPage
    obtain ⟨notBefore, notAfter⟩ := (isOn index).mp onPage
    exact (Nat.div_eq_of_lt_le notBefore notAfter).symm

/-- With a positive limit, a call for a page makes one query. Its last call is the only range, and
has as many rows as the limit says; the other calls, for the columns and the filter, are the same
for all pages. Every row is in the range of just one page. -/
theorem pages_partition_rows
    {request : RowRequest}
    (accepted : IsFilter request.filters)
    {size : Int}
    (isSize : request.limit.number? = some (.whole size))
    (positive : 1 ≤ size) :
    ∃ first last : Nat → Int,
      (∀ (index : Nat) (page : Value),
        page.number? = some (.whole index) →
        { request with page := page }.Makes
          (request.callsForAll ++ [rangeCall (first index) (last index)])) ∧
      (∀ call ∈ request.callsForAll, call.1 ≠ "range") ∧
      (∀ index, 0 ≤ first index ∧ last index - first index + 1 = size) ∧
      ∀ row : Nat, ∃! index : Nat, first index ≤ row ∧ row ≤ last index := by
  refine
    ⟨fun index => index * size, fun index => index * size + size - 1, ?_,
      fun _ => RowRequest.ne_range_of_mem_callsForAll, ?_, existsUnique_page positive⟩
  · intro index page isIndex
    have sameFilter : IsFilter { request with page := page }.filters := accepted
    exact RowRequest.makes_page sameFilter isSize isIndex
  · intro index
    refine ⟨Int.mul_nonneg (Int.natCast_nonneg index) (by omega), ?_⟩
    dsimp only
    omega

/-- What is asked for by a call that reads posts, three to a page, under a filter on two columns. -/
def pageOfPosts : RowRequest where
  table := .text "posts"
  select := .text "*"
  filters := .map statusAndViews
  limit := .int 3
  page := .int 2

/-- The page with number two is read by one query that is executed. Its range has three rows, and
every row is on one page. -/
theorem pages_partition_rows_of_three :
    ∃ (query : Query) (first last : Nat → Int),
      (GeneratedClass.callPrimitive ⟨"SupabaseApi", []⟩ .getAll
          ⟨[.text "posts"],
            [("filters", .map statusAndViews), ("page", .int 2), ("limit", .int 3)]⟩
          []).queries = [query] ∧
        query.executed = true ∧
        query.calls = pageOfPosts.callsForAll ++ [rangeCall (first 2) (last 2)] ∧
        last 2 - first 2 + 1 = 3 ∧
        ∀ row : Nat, ∃! index : Nat, first index ≤ row ∧ row ≤ last index := by
  have accepted : IsFilter pageOfPosts.filters := .inr ⟨_, rfl⟩
  have isSize : pageOfPosts.limit.number? = some (.whole 3) := rfl
  obtain ⟨first, last, makes, -, spans, onOnePage⟩ :=
    pages_partition_rows accepted isSize (by decide)
  have made :
      pageOfPosts.IsMadeBy ⟨"SupabaseApi", []⟩
        ⟨[.text "posts"],
          [("filters", .map statusAndViews), ("page", .int 2), ("limit", .int 3)]⟩ :=
    ⟨_, rfl, rfl⟩
  obtain ⟨query, isOnly, isMade, executed⟩ := makes 2 (.int 2) rfl _ _ [] made
  have uninterrupted :
      ¬ Interrupts [] (pageOfPosts.callsForAll ++ [rangeCall (first 2) (last 2)]).length := by
    rintro ⟨_, _, response, _⟩
    cases response
  exact ⟨query, first, last, isOnly, executed.mpr uninterrupted, isMade.complete uninterrupted,
    (spans 2).2, onOnePage⟩

end Access

end Tablewright
