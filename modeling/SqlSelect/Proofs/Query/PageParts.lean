import SqlSelect.Proofs.Query.WritingFailure

/-!
The parts of the statements that count and page a query without groups, and what a page of column
values is made of. Every one of these statements ranges over the tables, joins and filter of the
query, so these are one part.
-/

set_option autoImplicit false
set_option relaxedAutoImplicit false

namespace SqlSelect.Query

variable {query : Query} {request : PageRequest} {field : Field}

/-- What a query without groups ranges over: its tables, its joins and its filter. -/
def filteredSql (ignoresEmpty : Bool) (query : Query) : Except SqlError Text := do
  let sources ← query.sourcesSql
  let filter ← query.filterSql ignoresEmpty
  return sources ++ filter

/-- The column that a count counts: every row if it is blank. -/
def countedColumn (column : Text) : Text :=
  if (Text.trim column).isEmpty then ['*'] else Text.trim column

theorem sql_of_ungrouped (hgroups : query.groups = []) : query.sql false = (do
    query.requireComplete
    let projection ← query.projectionSql
    let filtered ← query.filteredSql query.ignoresEmpty
    let having ← Condition.clauseSql query.ignoresEmpty Phrase.having query.having
    return Phrase.select ++ topText query.top ++ projection ++ intoText query.into ++ filtered ++
      having) := by
  have hsorts : entriesIf false (SortKey.sqls true query.sorts) = pure [] := rfl
  have hnone : sortsText [] = [] := rfl
  have hungrouped : groupsText [] = [] := rfl
  rw [sql_eq, hgroups, hsorts]
  simp only [Field.sqls, filteredSql, bind_assoc, pure_bind, hnone, hungrouped, List.append_nil,
    List.nil_append, List.append_assoc]

theorem numberedSql_eq : query.numberedSql = (do
    let sorts ← query.sortsSql true
    let projection ← query.projectionSql
    let filtered ← query.filteredSql true
    return Phrase.numbering ++ sorts ++ Phrase.asRowNumber ++ projection ++ filtered) := by
  simp only [numberedSql, filteredSql, bind_assoc, pure_bind, List.append_assoc]

theorem pageSql_of_ungrouped (hgroups : query.groups = []) :
    query.pageSql request = query.windowPageSql request := by
  rw [pageSql, if_pos (by rw [hgroups]; rfl)]

theorem pageSql_of_grouped (hgroups : query.groups ≠ []) :
    query.pageSql request = query.temporaryPageSql request := by
  rw [pageSql, if_neg (by simpa using hgroups)]

theorem numberedGroupsSql_of_ungrouped (hgroups : query.groups = []) :
    query.numberedGroupsSql = query.numberedSql := by
  rw [numberedGroupsSql, if_pos (by rw [hgroups]; rfl)]

theorem numberedGroupsSql_of_grouped (hgroups : query.groups ≠ []) :
    query.numberedGroupsSql = (do
      let sorts ← query.sortsSql false
      let rows ← query.sql false
      return Phrase.numbering ++ sorts ++ Phrase.asRowNumber ++ Phrase.allFrom ++ rows ++
        Phrase.asGrouped) := by
  rw [numberedGroupsSql, if_neg (by simpa using hgroups)]

theorem countColumnSql_of_ungrouped (hgroups : query.groups = [])
    (htables : query.tables.isEmpty = false) (column : Text) :
    query.countColumnSql column = (do
      let filtered ← query.filteredSql true
      return Phrase.count ++ countedColumn column ++ ')' :: Phrase.asCount ++ filtered) := by
  rw [countColumnSql, if_pos (by rw [hgroups]; rfl), if_neg (by rw [htables]; decide)]
  simp only [filteredSql, countedColumn, bind_assoc, pure_bind, List.append_assoc,
    List.cons_append]

theorem countColumnSql_of_grouped (hgroups : query.groups ≠ []) (column : Text) :
    query.countColumnSql column = (do
      let rows ← query.sql false
      return Phrase.count ++ countedColumn column ++ ')' :: Phrase.derived ++ rows ++
        ')' :: Phrase.asCount) := by
  rw [countColumnSql, if_neg (by simpa using hgroups)]
  rfl

/-- The name in the count of distinct values of a field: only a query without groups has the table
of the field at hand. -/
def distinctSql (query : Query) (field : Field) : Except SqlError Text := do
  let name ← field.sql query.groups.isEmpty
  return Phrase.distinct ++ name

section Total

variable (query : Query) (request : PageRequest)

private theorem totalSql_alone (column : Except SqlError Text) :
    query.totalSql { request with withTotal := false } column = pure [] := rfl

private theorem totalSql_counted (column : Except SqlError Text) :
    query.totalSql { request with withTotal := true } column = (do
      let column ← column
      let count ← query.countColumnSql column
      return Phrase.also ++ count) := rfl

private theorem pageOffset_withTotal (withTotal : Bool) :
    query.pageOffset { request with withTotal } = query.pageOffset request := rfl

theorem pageSql_counted : query.pageSql { request with withTotal := true } = (do
    let page ← query.pageSql { request with withTotal := false }
    let total ← query.countSql
    return page ++ Phrase.also ++ total) := by
  have hall : (Except.ok ['*'] : Except SqlError Text) = pure ['*'] := rfl
  rw [pageSql, pageSql]
  split
  · simp only [windowPageSql, totalSql_alone, totalSql_counted, pageOffset_withTotal, hall, countSql,
      bind_assoc, pure_bind, List.append_nil, List.append_assoc]
  · simp only [temporaryPageSql, totalSql_alone, totalSql_counted, pageOffset_withTotal, hall,
      countSql, bind_assoc, pure_bind, List.append_nil, List.append_assoc, List.cons_append]
    rfl

theorem pageByColumnSql_counted (field : Field) :
    query.pageByColumnSql { request with withTotal := true } field = (do
      let page ← query.pageByColumnSql { request with withTotal := false } field
      let column ← query.distinctSql field
      let total ← query.countColumnSql column
      return page ++ Phrase.also ++ total) := by
  simp only [pageByColumnSql, columnWindowSql, totalSql_alone, totalSql_counted,
    pageOffset_withTotal, distinctSql, bind_assoc, pure_bind, List.append_nil, List.append_assoc,
    List.cons_append]

end Total

end SqlSelect.Query
