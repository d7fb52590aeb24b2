import SqlSelect.Query.Page
import SqlSelect.Proofs.Query.Reached
import SqlSelect.Proofs.Query.Written

/-!
What the statements written from a query fail with: the query itself, its count, and its pages.
Main statements: the parts of a statement fail only for what a query lacks, and a query that a page
can be written of can be counted.
-/

set_option autoImplicit false
set_option relaxedAutoImplicit false

namespace SqlSelect

inductive FailureOrigin where
  /-- A text is not of the expected form. -/
  | reading
  /-- A part of the statement is missing, or there is no such page. -/
  | writing
  /-- The executor failed. -/
  | executing
  /-- An answer of the executor does not hold what is asked for. -/
  | answering
deriving DecidableEq

def SqlError.origin : SqlError → FailureOrigin
  | .noTables | .noFields | .orderRequired | .invalidPageSize _ | .pageOutOfRange .. => .writing
  | .unknownJoinKind _ | .invalidJoinPredicate _ | .invalidMembership _ | .invalidTop _ => .reading
  | .missingColumn _ | .typeMismatch .. => .answering
  | .dataAccess _ => .executing

def FailsIn {α : Type} (origin : FailureOrigin) (outcome : Except SqlError α) : Prop :=
  ∀ cause, outcome = .error cause → cause.origin = origin

section Closure

variable {α β : Type} {origin : FailureOrigin} {first : Except SqlError α}

theorem failsIn_ok (a : α) : FailsIn origin (.ok a) := nofun

theorem failsIn_error {cause : SqlError} (h : cause.origin = origin) :
    FailsIn origin (.error cause : Except SqlError α) := by
  rintro _ ⟨⟩
  exact h

theorem FailsIn.bind {next : α → Except SqlError β} (h : FailsIn origin first)
    (hnext : ∀ a, FailsIn origin (next a)) : FailsIn origin (first >>= next) := by
  cases first with
  | error cause => exact failsIn_error (h cause rfl)
  | ok a => exact hnext a

theorem FailsIn.map (h : FailsIn origin first) (f : α → β) :
    FailsIn origin (do let a ← first; return f a) :=
  h.bind fun a => failsIn_ok (f a)

private theorem Query.origin_lacking (query : Query) : query.lacking.origin = .writing := by
  rw [lacking]
  split <;> rfl

theorem IsSettledBy.exists_ok_iff {queries : List Query} (h : IsSettledBy queries first) :
    (∃ a, first = .ok a) ↔ ∀ query ∈ queries, query.isComplete = true := by
  rw [IsSettledBy, forM_requireComplete] at h
  have hnone : queries.find? (!·.isComplete) = none ↔
      ∀ query ∈ queries, query.isComplete = true := by simp
  rw [← hnone]
  cases hfound : queries.find? (!·.isComplete) <;> cases first <;> rw [hfound] at h
  · cases h
  · simp
  · simp
  · cases h

/-- Every failure is that some query lacks a part. -/
def FailsLacking {α : Type} (outcome : Except SqlError α) : Prop :=
  ∀ cause, outcome = .error cause → ∃ query : Query, cause = query.lacking

theorem failsLacking_ok (a : α) : FailsLacking (.ok a) := nofun

theorem FailsLacking.bind {next : α → Except SqlError β} (h : FailsLacking first)
    (hnext : ∀ a, FailsLacking (next a)) : FailsLacking (first >>= next) := by
  cases first with
  | error cause =>
    rintro _ ⟨⟩
    exact h cause rfl
  | ok a => exact hnext a

theorem FailsLacking.map (h : FailsLacking first) (f : α → β) :
    FailsLacking (do let a ← first; return f a) :=
  h.bind fun a => failsLacking_ok (f a)

private theorem FailsLacking.failsIn (h : FailsLacking first) : FailsIn .writing first := by
  intro cause hcause
  obtain ⟨query, rfl⟩ := h cause hcause
  exact query.origin_lacking

theorem IsSettledBy.failsLacking {queries : List Query} (h : IsSettledBy queries first) :
    FailsLacking first := by
  rintro cause rfl
  rw [IsSettledBy, forM_requireComplete] at h
  cases hfound : queries.find? (!·.isComplete) with
  | none =>
    rw [hfound] at h
    exact Except.noConfusion rfl rfl (heq_of_eq h)
  | some query =>
    rw [hfound] at h
    exact ⟨query, Except.error.inj h⟩

end Closure

theorem PageRequest.offset?_eq_some_iff {request : PageRequest} {offset : UInt64} :
    request.offset? = some offset ↔
      offset.toNat = request.index.toNat * request.size.toNat := by
  have hbound := offset.toNat_lt_size
  simp only [offset?]
  split
  · next hfits =>
    rw [Option.some_inj, ← UInt64.toNat_inj, UInt64.toNat_ofNat_of_lt' hfits, eq_comm]
  · next hlarge =>
    refine iff_of_false nofun ?_
    intro hoffset
    omega

namespace Query

variable (query : Query)

theorem failsLacking_sql (ordered : Bool) : FailsLacking (query.sql ordered) :=
  (Query.isSettledBy ordered query).failsLacking

theorem failsLacking_requireComplete : FailsLacking query.requireComplete :=
  (isSettledBy_require query).failsLacking

private theorem failsLacking_projectionSql : FailsLacking query.projectionSql := by
  rw [projectionSql]
  refine FailsLacking.map ?_ _
  cases query.selectsAll with
  | true => exact failsLacking_ok _
  | false => exact (Field.isSettledBy_selectSqls query.fields).failsLacking

private theorem failsLacking_sourcesSql : FailsLacking query.sourcesSql :=
  (Join.isSettledBy_sqls query.joins).failsLacking.map _

private theorem failsLacking_filterSql (ignoresEmpty : Bool) :
    FailsLacking (query.filterSql ignoresEmpty) :=
  (Condition.isSettledBy_clause ignoresEmpty Phrase.filter query.filter).failsLacking

theorem failsLacking_sortsSql (withTable : Bool) : FailsLacking (query.sortsSql withTable) :=
  (SortKey.isSettledBy_sqls withTable query.sorts).failsLacking.map _

private theorem failsLacking_countColumnSql (column : Text) :
    FailsLacking (query.countColumnSql column) := by
  -- a count fails for want of a table without looking for fields
  rw [countColumnSql]
  split
  · split
    · rintro _ ⟨⟩
      exact ⟨Query.empty, rfl⟩
    · exact query.failsLacking_sourcesSql.bind fun _ => (query.failsLacking_filterSql true).map _
  · exact (query.failsLacking_sql false).map _

theorem failsLacking_numberedSql : FailsLacking query.numberedSql :=
  (query.failsLacking_sortsSql true).bind fun _ =>
    query.failsLacking_projectionSql.bind fun _ =>
      query.failsLacking_sourcesSql.bind fun _ => (query.failsLacking_filterSql true).map _

theorem failsLacking_totalSql (request : PageRequest) {column : Except SqlError Text}
    (h : FailsLacking column) : FailsLacking (query.totalSql request column) := by
  rw [totalSql]
  split
  · exact h.bind fun column => (query.failsLacking_countColumnSql column).map _
  · exact failsLacking_ok _

theorem failsIn_sql (ordered : Bool) : FailsIn .writing (query.sql ordered) :=
  (query.failsLacking_sql ordered).failsIn

theorem failsIn_countSql : FailsIn .writing query.countSql :=
  (query.failsLacking_countColumnSql ['*']).failsIn

private theorem failsIn_pageOffset (request : PageRequest) :
    FailsIn .writing (query.pageOffset request) := by
  rw [pageOffset]
  split
  · exact failsIn_error rfl
  split
  · exact failsIn_error rfl
  cases request.offset? with
  | none => exact failsIn_error rfl
  | some offset => exact query.failsLacking_requireComplete.failsIn.map fun _ => offset

theorem failsIn_pageSql (request : PageRequest) : FailsIn .writing (query.pageSql request) := by
  have htotal := query.failsLacking_totalSql request (failsLacking_ok ['*'])
  rw [pageSql]
  split
  · exact (query.failsIn_pageOffset request).bind fun _ =>
      (query.failsLacking_numberedSql.bind fun _ => htotal.map _).failsIn
  · exact (query.failsIn_pageOffset request).bind fun _ =>
      (((query.withTemporary request).failsLacking_sql true).bind fun _ =>
        (query.failsLacking_sortsSql false).bind fun _ => htotal.map _).failsIn

variable {query}

theorem pageOffset_eq_ok_iff {request : PageRequest} {offset : UInt64} :
    query.pageOffset request = .ok offset ↔
      query.sorts.isEmpty = false ∧ request.size ≠ 0 ∧ request.offset? = some offset ∧
        query.requireComplete = .ok () := by
  rw [pageOffset]
  cases query.sorts.isEmpty with
  | true => simp
  | false =>
    by_cases hsize : request.size = 0
    · simp [hsize]
    · cases hoffset : request.offset? with
      | none => simp [hsize]
      | some rows =>
        cases query.requireComplete <;> simp [hsize, Except.map]

theorem requireComplete_of_pageOffset {request : PageRequest} {offset : UInt64}
    (h : query.pageOffset request = .ok offset) : query.requireComplete = .ok () :=
  (pageOffset_eq_ok_iff.1 h).2.2.2

theorem tables_of_requireComplete (h : query.requireComplete = .ok ()) :
    query.tables.isEmpty = false := by
  rw [requireComplete, completeness] at h
  split at h
  · cases h
  · next htables => simpa using htables

private theorem exists_sql_of_withTemporary {request : PageRequest} {rows : Text}
    (h : (query.withTemporary request).sql true = .ok rows) :
    ∃ unordered, query.sql false = .ok unordered := by
  -- without its order and its target the statement comes to no other queries
  have hcomplete := (Query.isSettledBy true (query.withTemporary request)).exists_ok_iff.1 ⟨rows, h⟩
  refine (Query.isSettledBy false query).exists_ok_iff.2 ?_
  obtain ⟨fields, selectsAll, into, tables, joins, filter, groups, having, sorts, top, ignoresEmpty⟩ :=
    query
  rw [withTemporary, reached] at hcomplete
  rw [reached]
  simp only [List.forall_mem_cons, List.forall_mem_append] at hcomplete ⊢
  obtain ⟨hquery, hfields, hjoins, hfilter, hgroups, hhaving, -⟩ := hcomplete
  exact ⟨hquery, hfields, hjoins, hfilter, hgroups, hhaving, nofun⟩

/-- A query that a page can be written of can be counted: what the count holds stands in the page
as well. -/
theorem exists_countSql_of_pageSql {request : PageRequest} {page : Text}
    (h : query.pageSql request = .ok page) : ∃ total, query.countSql = .ok total := by
  rw [countSql, countColumnSql]
  rw [pageSql] at h
  split at h
  · next hgroups =>
    obtain ⟨offset, hoffset, h⟩ := bind_eq_ok.1 h
    obtain ⟨numbered, hnumbered, -⟩ := bind_eq_ok.1 h
    obtain ⟨sorts, -, hnumbered⟩ := bind_eq_ok.1 hnumbered
    obtain ⟨projection, -, hnumbered⟩ := bind_eq_ok.1 hnumbered
    obtain ⟨sources, hsources, hnumbered⟩ := bind_eq_ok.1 hnumbered
    obtain ⟨filter, hfilter, -⟩ := bind_eq_ok.1 hnumbered
    have htables := tables_of_requireComplete (requireComplete_of_pageOffset hoffset)
    simp only [hgroups, htables, hsources, hfilter, if_true, Bool.false_eq_true, if_false]
    exact ⟨_, rfl⟩
  · next hgroups =>
    obtain ⟨offset, -, h⟩ := bind_eq_ok.1 h
    obtain ⟨rows, hrows, -⟩ := bind_eq_ok.1 h
    obtain ⟨unordered, hunordered⟩ := exists_sql_of_withTemporary hrows
    simp only [hgroups, hunordered, Bool.false_eq_true, if_false]
    exact ⟨_, rfl⟩

end Query

end SqlSelect
