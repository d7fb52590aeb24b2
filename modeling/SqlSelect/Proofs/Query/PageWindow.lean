import SqlSelect.Proofs.Query.PageParts
import Mathlib.Logic.Function.Iterate

/-!
Page numbers in 64 bits. A page is a window of row numbers, and the statement of a page writes this
window or fails. Main statement: the window of a page is the exact one, and going from page to page
the windows lie one behind the other until their numbers have more than 64 bits.
-/

set_option autoImplicit false
set_option relaxedAutoImplicit false

namespace SqlSelect

/-! ## Windows of row numbers -/

namespace PageRequest

variable {request : PageRequest}

/-- The row numbers of a page: from behind the first number up to the second one. A page whose first
number has more than 64 bits has none. -/
def window? (request : PageRequest) : Option (Nat × Nat) :=
  let start := request.index.toNat * request.size.toNat
  if start < UInt64.size then some (start, start + request.size.toNat) else none

private theorem window?_eq_some (h : request.index.toNat * request.size.toNat < UInt64.size) :
    request.window? = some (request.index.toNat * request.size.toNat,
      request.index.toNat * request.size.toNat + request.size.toNat) := if_pos h

private theorem window?_eq_none_iff :
    request.window? = none ↔ UInt64.size ≤ request.index.toNat * request.size.toNat := by
  rw [← Nat.not_lt]
  simp [window?]

private theorem offset?_eq_none_iff :
    request.offset? = none ↔ UInt64.size ≤ request.index.toNat * request.size.toNat := by
  rw [← Nat.not_lt]
  simp [offset?]

@[simp] theorem size_next (request : PageRequest) : request.next.size = request.size := by
  simp only [next]
  split <;> rfl

private theorem index_next (h : request.index.toNat + 1 < UInt64.size) :
    request.next.index.toNat = request.index.toNat + 1 := by
  simp only [next, if_pos h]
  exact UInt64.toNat_ofNat_of_lt' h

private theorem index_le_next (request : PageRequest) :
    request.index.toNat ≤ request.next.index.toNat := by
  by_cases h : request.index.toNat + 1 < UInt64.size
  · rw [index_next h]
    exact Nat.le_succ _
  · simp [next, h]

private theorem window?_next (h : request.index.toNat + 1 < UInt64.size) :
    request.next.window? = none ∨ ∃ start stop, request.window? = some (start, stop) ∧
      request.next.window? = some (stop, stop + request.size.toNat) := by
  have hstart : request.next.index.toNat * request.next.size.toNat =
      request.index.toNat * request.size.toNat + request.size.toNat := by
    rw [index_next h, size_next, Nat.succ_mul]
  by_cases hfits : request.next.index.toNat * request.next.size.toNat < UInt64.size
  · refine .inr ⟨_, _, window?_eq_some (by omega), ?_⟩
    rw [window?_eq_some hfits, hstart, size_next]
  · exact .inl (window?_eq_none_iff.2 (Nat.not_lt.1 hfits))

private theorem window?_next_eq_none (h : request.window? = none) :
    request.next.window? = none := by
  rw [window?_eq_none_iff] at h ⊢
  rw [size_next]
  exact Nat.le_trans h (Nat.mul_le_mul_right _ request.index_le_next)

private theorem window?_iterate_eq_none (h : request.window? = none) (calls : Nat) :
    (next^[calls] request).window? = none := by
  induction calls with
  | zero => exact h
  | succ calls ih =>
    rw [Function.iterate_succ_apply']
    exact window?_next_eq_none ih

private theorem size_iterate (request : PageRequest) (calls : Nat) :
    (next^[calls] request).size = request.size := by
  induction calls with
  | zero => rfl
  | succ calls ih => rw [Function.iterate_succ_apply', size_next, ih]

end PageRequest

/-! ## Windows in statements -/

/-- Whether a text selects a number of rows with row numbers behind an offset. Both numbers end where
their digits end. -/
def Text.HoldsWindow (size offset : Nat) (text : Text) : Prop :=
  ∃ front between behind,
    text = front ++ Phrase.selectTop ++ Text.ofNat size ++ ' ' :: between ++ Phrase.window ++
      Text.ofNat offset ++ behind ∧
    ∀ c ∈ behind.head?, c.isDigit = false

namespace Query

/-- What it takes to page a query: an order, rows on the page, a first number of 64 bits, and a
complete query, missed in this order. A page that is written holds its window. -/
structure IsPagedExactly (query : Query) (request : PageRequest) (written : Except SqlError Text) :
    Prop where
  orderRequired : query.sorts = [] → written = .error .orderRequired
  invalidPageSize : query.sorts ≠ [] → request.size = 0 →
    written = .error (.invalidPageSize request.size)
  pageOutOfRange : query.sorts ≠ [] → request.size ≠ 0 →
    (written = .error (.pageOutOfRange request.index request.size) ↔
      UInt64.size ≤ request.index.toNat * request.size.toNat)
  incomplete : query.sorts ≠ [] → request.size ≠ 0 →
    request.index.toNat * request.size.toNat < UInt64.size → query.isComplete = false →
      written = .error query.lacking
  window : ∀ page, written = .ok page →
    page.HoldsWindow request.size.toNat (request.index.toNat * request.size.toNat)

variable {query : Query} {request : PageRequest}

private theorem lacking_ne_pageOutOfRange (query : Query) (index size : UInt64) :
    query.lacking ≠ .pageOutOfRange index size := by
  intro h
  rw [lacking] at h
  split at h <;> cases h

private theorem isPagedExactly_bind {rest : UInt64 → Except SqlError Text}
    (hrest : ∀ offset, FailsLacking (rest offset))
    (hwindow : ∀ offset page, rest offset = .ok page →
      page.HoldsWindow request.size.toNat offset.toNat) :
    IsPagedExactly query request (query.pageOffset request >>= rest) where
  orderRequired hsorts := by
    rw [pageOffset, if_pos (by rw [hsorts]; rfl)]
    rfl
  invalidPageSize hsorts hsize := by
    rw [pageOffset, if_neg (by simpa using hsorts), if_pos hsize]
    rfl
  pageOutOfRange hsorts hsize := by
    rw [pageOffset, if_neg (by simpa using hsorts), if_neg hsize, ← PageRequest.offset?_eq_none_iff]
    cases hoffset : request.offset? with
    | none => exact iff_of_true rfl rfl
    | some offset =>
      refine iff_of_false (fun hcause => ?_) (Option.some_ne_none offset)
      obtain ⟨other, hother⟩ :=
        ((query.failsLacking_requireComplete.map fun _ => offset).bind hrest) _ hcause
      exact other.lacking_ne_pageOutOfRange _ _ hother.symm
  incomplete hsorts hsize hinside hincomplete := by
    rw [← Nat.not_le, ← PageRequest.offset?_eq_none_iff] at hinside
    obtain ⟨offset, hoffset⟩ := Option.ne_none_iff_exists'.1 hinside
    rw [pageOffset, if_neg (by simpa using hsorts), if_neg hsize, hoffset, requireComplete_eq,
      hincomplete]
    rfl
  window page hpage := by
    obtain ⟨offset, hoffset, hpage⟩ := bind_eq_ok.1 hpage
    obtain ⟨-, -, hoffset, -⟩ := pageOffset_eq_ok_iff.1 hoffset
    exact PageRequest.offset?_eq_some_iff.1 hoffset ▸ hwindow offset page hpage

private theorem head_total {column : Except SqlError Text} {total : Text}
    (h : query.totalSql request column = .ok total) : ∀ c ∈ total.head?, c.isDigit = false := by
  rw [totalSql] at h
  split at h
  · obtain ⟨name, -, h⟩ := bind_eq_ok.1 h
    obtain ⟨count, -, h⟩ := bind_eq_ok.1 h
    rw [← pure_eq_ok.1 h]
    rintro _ ⟨⟩
    decide
  · rw [← pure_eq_ok.1 h]
    rintro _ ⟨⟩

private theorem isPagedExactly_windowPageSql :
    IsPagedExactly query request (query.windowPageSql request) := by
  have htotal := query.failsLacking_totalSql request (failsLacking_ok ['*'])
  rw [windowPageSql]
  refine isPagedExactly_bind (fun offset => ?_) fun offset page hpage => ?_
  · exact query.failsLacking_numberedSql.bind fun _ => htotal.map _
  · obtain ⟨numbered, -, hpage⟩ := bind_eq_ok.1 hpage
    obtain ⟨total, htotal, hpage⟩ := bind_eq_ok.1 hpage
    refine ⟨[], Phrase.allFrom ++ numbered ++ Phrase.asNumbered, total, ?_, head_total htotal⟩
    rw [← pure_eq_ok.1 hpage, windowText]
    simp only [List.append_assoc, List.cons_append, List.nil_append]

private theorem isPagedExactly_temporaryPageSql :
    IsPagedExactly query request (query.temporaryPageSql request) := by
  have htotal := query.failsLacking_totalSql request (failsLacking_ok ['*'])
  rw [temporaryPageSql]
  refine isPagedExactly_bind (fun offset => ?_) fun offset page hpage => ?_
  · exact ((query.withTemporary request).failsLacking_sql true).bind fun _ =>
      (query.failsLacking_sortsSql false).bind fun _ => htotal.map _
  · obtain ⟨rows, -, hpage⟩ := bind_eq_ok.1 hpage
    obtain ⟨sorts, -, hpage⟩ := bind_eq_ok.1 hpage
    obtain ⟨total, -, hpage⟩ := bind_eq_ok.1 hpage
    refine ⟨rows ++ Phrase.also, Phrase.allFrom ++ Phrase.numbering ++ sorts ++ Phrase.asRowNumber ++
      Phrase.starFrom ++ request.tempName ++ Phrase.asTemporary,
      Phrase.dropTable ++ request.tempName ++ total, ?_, by rintro _ ⟨⟩; decide⟩
    rw [← pure_eq_ok.1 hpage, windowText]
    simp only [List.append_assoc, List.cons_append]

private theorem failsLacking_numberedGroupsSql (query : Query) :
    FailsLacking query.numberedGroupsSql := by
  rw [numberedGroupsSql]
  split
  · exact query.failsLacking_numberedSql
  · exact (query.failsLacking_sortsSql false).bind fun _ => (query.failsLacking_sql false).map _

private theorem isPagedExactly_pageByColumnSql (field : Field) :
    IsPagedExactly query request (query.pageByColumnSql request field) := by
  have hfield (withTable : Bool) : FailsLacking (field.sql withTable) :=
    (Field.isSettledBy withTable field).failsLacking
  rw [pageByColumnSql]
  refine isPagedExactly_bind (fun offset => ?_) fun offset page hpage => ?_
  · exact (query.failsLacking_sql false).bind fun _ => (hfield false).bind fun _ =>
      (query.failsLacking_numberedGroupsSql.map _).bind fun _ =>
        (query.failsLacking_sortsSql false).bind fun _ =>
          (query.failsLacking_totalSql request ((hfield _).map _)).map _
  · obtain ⟨rows, -, hpage⟩ := bind_eq_ok.1 hpage
    obtain ⟨column, -, hpage⟩ := bind_eq_ok.1 hpage
    obtain ⟨window, hwindow, hpage⟩ := bind_eq_ok.1 hpage
    obtain ⟨sorts, -, hpage⟩ := bind_eq_ok.1 hpage
    obtain ⟨total, -, hpage⟩ := bind_eq_ok.1 hpage
    obtain ⟨numbered, -, hwindow⟩ := bind_eq_ok.1 hwindow
    refine ⟨Phrase.select ++ Phrase.allFrom ++ rows ++ Phrase.asResults ++ column ++ Phrase.isIn,
      column ++ Phrase.derived ++ numbered ++ Phrase.asNumbered,
      Phrase.groups ++ column ++ ')' :: Phrase.sorts ++ sorts ++ total, ?_, by rintro _ ⟨⟩; decide⟩
    rw [← pure_eq_ok.1 hpage, ← pure_eq_ok.1 hwindow, windowText]
    simp only [List.append_assoc, List.cons_append]

private theorem isPagedExactly_pageSql : IsPagedExactly query request (query.pageSql request) := by
  rw [pageSql]
  split
  · exact isPagedExactly_windowPageSql
  · exact isPagedExactly_temporaryPageSql

/-- From a page, go on to the next one any number of times. Wherever that leads, both kinds of pages
are written with exactly the window of their row numbers, or fail for the first thing that is
missing. Below the last page number the next window begins where this one ends, or its numbers have
more than 64 bits; behind a page with such numbers there is no window any more. -/
theorem pages_are_exact_windows (query : Query) (field : Field) (request : PageRequest)
    (calls : Nat) :
    let here := PageRequest.next^[calls] request
    query.IsPagedExactly here (query.pageSql here) ∧
      query.IsPagedExactly here (query.pageByColumnSql here field) ∧
      here.size = request.size ∧
      (here.index.toNat < UInt64.size - 1 → here.next.window? = none ∨
        ∃ start stop, here.window? = some (start, stop) ∧
          here.next.window? = some (stop, stop + request.size.toNat)) ∧
      (here.window? = none → ∀ more, (PageRequest.next^[more] here).window? = none) := by
  intro here
  have hsize : here.size = request.size := request.size_iterate calls
  refine ⟨isPagedExactly_pageSql, isPagedExactly_pageByColumnSql field, hsize, fun hindex => ?_,
    PageRequest.window?_iterate_eq_none⟩
  rw [← hsize]
  exact PageRequest.window?_next (by omega)

end Query

end SqlSelect
