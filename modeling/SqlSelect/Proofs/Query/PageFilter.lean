import SqlSelect.Query.Edit
import SqlSelect.Proofs.Condition.Emptiness
import SqlSelect.Proofs.Query.ColumnPage
import SqlSelect.Proofs.Query.PageTotal

/-!
The filters in a page of the distinct values of a column. The rows of the page are filtered as the
query says; the numbered rows, and the rows that are counted, are filtered without the empty
comparisons. Main statement: these are the same rows exactly if the query leaves its empty
comparisons out as well, or has none.
-/

set_option autoImplicit false
set_option relaxedAutoImplicit false

namespace SqlSelect

/-- A page of column values of a query without groups, taken apart at the tables, joins and filters
that its statements range over. -/
structure ColumnPage where
  /-- The row limit, the projection and the target of the results. -/
  selected : Text
  /-- What the results range over. -/
  results : Text
  /-- The filter of groups behind the results. -/
  having : Text
  /-- The order and the projection of the numbered rows. -/
  numbering : Text
  /-- What the numbered rows range over. -/
  numbered : Text
  column : Text
  size : Nat
  offset : Nat
  /-- The order of the page. -/
  order : Text
  /-- The counted column and what the count ranges over. -/
  total : Option (Text × Text)

namespace ColumnPage

def window (page : ColumnPage) : ColumnWindow where
  top := page.size
  column := page.column
  rows := page.numbering ++ page.numbered
  offset := page.offset

def totalText : Option (Text × Text) → Text
  | none => []
  | some (column, counted) =>
    Phrase.also ++ Phrase.count ++ column ++ ')' :: Phrase.asCount ++ counted

def sql (page : ColumnPage) : Text :=
  Phrase.select ++ Phrase.allFrom ++
    (Phrase.select ++ page.selected ++ page.results ++ page.having) ++ Phrase.asResults ++
    page.column ++ Phrase.isIn ++ page.window.sql ++ ')' :: Phrase.sorts ++ page.order ++
    totalText page.total

end ColumnPage

private theorem clauseText_inj {phrase left right : Text} (hphrase : phrase ≠ []) :
    clauseText phrase left = clauseText phrase right ↔ left = right := by
  refine ⟨fun h => ?_, congrArg _⟩
  cases left with
  | nil =>
    cases right with
    | nil => rfl
    | cons c cs => exact absurd h.symm (by simp [clauseText, hphrase])
  | cons b bs =>
    cases right with
    | nil => exact absurd h (by simp [clauseText, hphrase])
    | cons c cs => exact List.append_cancel_left h

namespace Query

variable {query : Query} {request : PageRequest} {field : Field}

/-- Whether a query tests a field for nothing: its filter has a comparison without a value. -/
def hasEmptyComparison (query : Query) : Bool := query.filter.any Condition.hasEmptyComparison

private theorem filterSql_eq_iff {kept dropped : Text} (hkept : query.filterSql false = .ok kept)
    (hdropped : query.filterSql true = .ok dropped) :
    kept = dropped ↔ query.hasEmptyComparison = false := by
  rw [filterSql] at hkept hdropped
  rw [hasEmptyComparison]
  cases hfilter : query.filter with
  | none =>
    rw [hfilter, Condition.clauseSql, pure_eq_ok] at hkept hdropped
    exact iff_of_true (hkept.symm.trans hdropped) rfl
  | some condition =>
    rw [hfilter, Condition.clauseSql] at hkept hdropped
    obtain ⟨long, hlong, hkept⟩ := bind_eq_ok.1 hkept
    obtain ⟨short, hshort, hdropped⟩ := bind_eq_ok.1 hdropped
    rw [← pure_eq_ok.1 hkept, ← pure_eq_ok.1 hdropped, clauseText_inj (by decide), Option.any_some]
    exact (Condition.shortens_sql condition hshort hlong).eq_iff

private theorem filteredSql_eq_iff {rows numbered : Text}
    (hrows : query.filteredSql query.ignoresEmpty = .ok rows)
    (hnumbered : query.filteredSql true = .ok numbered) :
    rows = numbered ↔ query.ignoresEmpty = true ∨ query.hasEmptyComparison = false := by
  cases hignores : query.ignoresEmpty with
  | true =>
    rw [hignores] at hrows
    exact iff_of_true (Except.ok.inj (hrows.symm.trans hnumbered)) (.inl rfl)
  | false =>
    rw [hignores] at hrows
    obtain ⟨sources, hsources, hrows⟩ := bind_eq_ok.1 hrows
    obtain ⟨kept, hkept, hrows⟩ := bind_eq_ok.1 hrows
    obtain ⟨others, hothers, hnumbered⟩ := bind_eq_ok.1 hnumbered
    obtain ⟨dropped, hdropped, hnumbered⟩ := bind_eq_ok.1 hnumbered
    rw [← pure_eq_ok.1 hrows, ← pure_eq_ok.1 hnumbered,
      Except.ok.inj (hothers.symm.trans hsources), List.append_cancel_left_eq,
      filterSql_eq_iff hkept hdropped]
    simp

private theorem exists_results {rows : Text} (hgroups : query.groups = [])
    (h : query.sql false = .ok rows) :
    ∃ selected results having, query.filteredSql query.ignoresEmpty = .ok results ∧
      rows = Phrase.select ++ selected ++ results ++ having := by
  rw [sql_of_ungrouped hgroups] at h
  obtain ⟨-, -, h⟩ := bind_eq_ok.1 h
  obtain ⟨projection, -, h⟩ := bind_eq_ok.1 h
  obtain ⟨results, hresults, h⟩ := bind_eq_ok.1 h
  obtain ⟨having, -, h⟩ := bind_eq_ok.1 h
  refine ⟨topText query.top ++ projection ++ intoText query.into, results, having, hresults, ?_⟩
  rw [← pure_eq_ok.1 h]
  simp only [List.append_assoc]

private theorem exists_total {column : Except SqlError Text} {numbered text : Text}
    (hgroups : query.groups = []) (htables : query.tables.isEmpty = false)
    (hnumbered : query.filteredSql true = .ok numbered)
    (h : query.totalSql request column = .ok text) :
    ∃ total, text = ColumnPage.totalText total ∧
      total.map Prod.snd = if request.withTotal then some numbered else none := by
  rw [totalSql] at h
  split at h
  · next htotal =>
    obtain ⟨name, -, h⟩ := bind_eq_ok.1 h
    rw [countColumnSql_of_ungrouped hgroups htables, hnumbered] at h
    refine ⟨some (countedColumn name, numbered), ?_, by rw [htotal]; rfl⟩
    rw [← pure_eq_ok.1 h, ColumnPage.totalText]
    simp only [List.append_assoc]
  · next htotal =>
    exact ⟨none, (pure_eq_ok.1 h).symm, by rw [if_neg htotal]; rfl⟩

/-- A page of column values of a query without groups ranges over the filtered tables of the query
three times: for its rows, for the numbers of the rows, and for its total. The last two are always
the same. The first one is the same exactly if the query leaves empty comparisons out of its own
filter, or has none in it. -/
theorem pageByColumn_filters_alike_iff {page : Text} (hgroups : query.groups = [])
    (h : query.pageByColumnSql request field = .ok page) :
    ∃ parts : ColumnPage, parts.sql = page ∧
      query.filteredSql query.ignoresEmpty = .ok parts.results ∧
      query.filteredSql true = .ok parts.numbered ∧
      parts.total.map Prod.snd = (if request.withTotal then some parts.numbered else none) ∧
      (parts.results = parts.numbered ↔
        query.ignoresEmpty = true ∨ query.hasEmptyComparison = false) := by
  obtain ⟨offset, hoffset, h⟩ := bind_eq_ok.1 h
  obtain ⟨rows, hrows, h⟩ := bind_eq_ok.1 h
  obtain ⟨column, -, h⟩ := bind_eq_ok.1 h
  obtain ⟨window, hwindow, h⟩ := bind_eq_ok.1 h
  obtain ⟨order, -, h⟩ := bind_eq_ok.1 h
  obtain ⟨text, htext, h⟩ := bind_eq_ok.1 h
  obtain ⟨rowTexts, hrowTexts, hwindow⟩ := bind_eq_ok.1 hwindow
  rw [numberedGroupsSql_of_ungrouped hgroups] at hrowTexts
  obtain ⟨selected, results, having, hresults, rfl⟩ := exists_results hgroups hrows
  obtain ⟨sorts, projection, numbered, -, -, hnumbered, rfl⟩ :=
    exists_filteredSql_of_numberedSql hrowTexts
  have htables := tables_of_requireComplete (requireComplete_of_pageOffset hoffset)
  obtain ⟨total, rfl, htotal⟩ := exists_total hgroups htables hnumbered htext
  refine ⟨⟨selected, results, having, Phrase.numbering ++ sorts ++ Phrase.asRowNumber ++ projection,
    numbered, column, request.size.toNat, offset.toNat, order, total⟩, ?_, hresults, hnumbered, htotal,
    filteredSql_eq_iff hresults hnumbered⟩
  rw [← pure_eq_ok.1 h, ← pure_eq_ok.1 hwindow, ColumnPage.sql, ColumnPage.window, ColumnWindow.sql,
    windowText]
  simp only [List.append_assoc, List.cons_append]

/-- Orders without a note are shown, but all orders are numbered. -/
theorem pageByColumn_filters_alike_iff_of_missing_note :
    ∃ query page parts,
      Query.parse "SELECT * FROM Orders ORDER BY Id".toList = .ok query ∧ query.groups = [] ∧
      (query.whereValue .equal { name := "Note".toList } .null).pageByColumnSql
        { size := 10, withTotal := true } { name := "CustomerId".toList } = .ok page ∧
      ColumnPage.sql parts = page ∧
      parts.results = " FROM Orders WHERE Note IS NULL".toList ∧
      parts.numbered = " FROM Orders".toList ∧
      parts.total.map Prod.snd = some " FROM Orders".toList ∧
      parts.results ≠ parts.numbered := by
  let query : Query := {
    selectsAll := true
    tables := [{ name := "Orders".toList }]
    sorts := [{ field := { name := "Id".toList } }] }
  obtain ⟨parts, hparts, hresults, hnumbered, htotal, hiff⟩ :=
    @pageByColumn_filters_alike_iff (query.whereValue .equal { name := "Note".toList } .null)
      { size := 10, withTotal := true } { name := "CustomerId".toList } _ rfl rfl
  refine ⟨query, _, parts, rfl, rfl, rfl, hparts, ?_, ?_, ?_, ?_⟩
  · exact (Except.ok.inj hresults).symm
  · exact (Except.ok.inj hnumbered).symm
  · rw [htotal, ← Except.ok.inj hnumbered]
    rfl
  · rw [Ne, hiff]
    decide

end Query

end SqlSelect
