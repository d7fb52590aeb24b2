import SqlSelect.Query.Parser
import SqlSelect.Proofs.Query.PageParts

/-!
Pages that are run together with their total count. Main statement: whenever a page can be written
its total can be written, the total stands behind the page, and it counts the rows that the page
numbers.
-/

set_option autoImplicit false
set_option relaxedAutoImplicit false

namespace SqlSelect

/-- Two statements are written to run together. If the first one cannot be written, its failure is
the failure; if it can, so can the second one, which stands behind it. -/
def RunsWith (first second together : Except SqlError Text) : Prop :=
  match first with
  | .error cause => together = .error cause
  | .ok text => ∃ behind, second = .ok behind ∧ together = .ok (text ++ Phrase.also ++ behind)

private theorem runsWith_of_eq {first second together : Except SqlError Text}
    (htogether : together = do
      let text ← first
      let behind ← second
      return text ++ Phrase.also ++ behind)
    (hsecond : ∀ text, first = .ok text → ∃ behind, second = .ok behind) :
    RunsWith first second together := by
  cases first with
  | error cause => exact htogether
  | ok text =>
    obtain ⟨behind, hbehind⟩ := hsecond text rfl
    rw [hbehind] at htogether
    exact ⟨behind, hbehind, htogether⟩

private theorem Field.exists_sql {field : Field} {withTable : Bool} {name : Text}
    (h : field.sql withTable = .ok name) (other : Bool) :
    ∃ otherName, field.sql other = .ok otherName :=
  (Field.isSettledBy other field).exists_ok_iff.2
    ((Field.isSettledBy withTable field).exists_ok_iff.1 ⟨name, h⟩)

namespace Query

variable {query : Query} {request : PageRequest} {field : Field}

theorem exists_filteredSql_of_numberedSql {numbered : Text}
    (h : query.numberedSql = .ok numbered) :
    ∃ sorts projection filtered, query.sortsSql true = .ok sorts ∧
      query.projectionSql = .ok projection ∧ query.filteredSql true = .ok filtered ∧
      numbered = Phrase.numbering ++ sorts ++ Phrase.asRowNumber ++ projection ++ filtered := by
  rw [numberedSql_eq] at h
  obtain ⟨sorts, hsorts, h⟩ := bind_eq_ok.1 h
  obtain ⟨projection, hprojection, h⟩ := bind_eq_ok.1 h
  obtain ⟨filtered, hfiltered, h⟩ := bind_eq_ok.1 h
  exact ⟨sorts, projection, filtered, hsorts, hprojection, hfiltered, (pure_eq_ok.1 h).symm⟩

/-- The distinct values of a field can be counted whenever a page of them can be written: the count
ranges over what is numbered, or over the grouped rows. -/
private theorem exists_countColumnSql_of_pageByColumnSql {page : Text}
    (h : query.pageByColumnSql request field = .ok page) :
    ∃ column total, query.distinctSql field = .ok column ∧
      query.countColumnSql column = .ok total := by
  obtain ⟨offset, hoffset, h⟩ := bind_eq_ok.1 h
  obtain ⟨rows, hrows, h⟩ := bind_eq_ok.1 h
  obtain ⟨plainName, hname, h⟩ := bind_eq_ok.1 h
  obtain ⟨window, hwindow, -⟩ := bind_eq_ok.1 h
  obtain ⟨numbered, hnumbered, -⟩ := bind_eq_ok.1 hwindow
  obtain ⟨name, hqualified⟩ := Field.exists_sql hname query.groups.isEmpty
  refine ⟨Phrase.distinct ++ name, ?_⟩
  rw [distinctSql, hqualified]
  by_cases hgroups : query.groups = []
  · have htables := tables_of_requireComplete (requireComplete_of_pageOffset hoffset)
    rw [numberedGroupsSql_of_ungrouped hgroups] at hnumbered
    obtain ⟨-, -, filtered, -, -, hfiltered, -⟩ := exists_filteredSql_of_numberedSql hnumbered
    rw [countColumnSql_of_ungrouped hgroups htables, hfiltered]
    exact ⟨_, rfl, rfl⟩
  · rw [countColumnSql_of_grouped hgroups, hrows]
    exact ⟨_, rfl, rfl⟩

/-- A page with its total is the page without it and the count of the query, of its rows or of the
distinct values of the field. The field is counted under its table if the query has no groups, and
then rows are counted over the tables, joins and filter that rows are numbered over. -/
theorem total_composes_with_page (query : Query) (request : PageRequest) (field : Field) :
    RunsWith (query.pageSql { request with withTotal := false }) query.countSql
        (query.pageSql { request with withTotal := true }) ∧
      RunsWith (query.pageByColumnSql { request with withTotal := false } field)
        (do
          let name ← field.sql query.groups.isEmpty
          query.countColumnSql (Phrase.distinct ++ name))
        (query.pageByColumnSql { request with withTotal := true } field) ∧
      ∀ page, query.groups = [] → query.pageSql { request with withTotal := false } = .ok page →
        ∃ offset sorts projection filtered,
          query.sortsSql true = .ok sorts ∧ query.projectionSql = .ok projection ∧
          query.filteredSql true = .ok filtered ∧
          page = Phrase.selectTop ++ Text.ofNat request.size.toNat ++ ' ' :: Phrase.allFrom ++
            (Phrase.numbering ++ sorts ++ Phrase.asRowNumber ++ projection ++ filtered) ++
            Phrase.asNumbered ++ windowText offset ∧
          query.countSql = .ok ("SELECT COUNT(*) AS count".toList ++ filtered) := by
  refine ⟨?_, ?_, ?_⟩
  · exact runsWith_of_eq (pageSql_counted query request) fun _ => exists_countSql_of_pageSql
  · refine runsWith_of_eq ?_ fun page hpage => ?_
    · rw [pageByColumnSql_counted, distinctSql]
      simp only [bind_assoc, pure_bind]
    · obtain ⟨column, total, hcolumn, htotal⟩ := exists_countColumnSql_of_pageByColumnSql hpage
      obtain ⟨name, hname, hdistinct⟩ := bind_eq_ok.1 hcolumn
      rw [hname]
      rw [← pure_eq_ok.1 hdistinct] at htotal
      exact ⟨total, htotal⟩
  · intro page hgroups hpage
    rw [pageSql_of_ungrouped hgroups] at hpage
    obtain ⟨offset, hoffset, hpage⟩ := bind_eq_ok.1 hpage
    obtain ⟨numbered, hnumbered, hpage⟩ := bind_eq_ok.1 hpage
    obtain ⟨sorts, projection, filtered, hsorts, hprojection, hfiltered, rfl⟩ :=
      exists_filteredSql_of_numberedSql hnumbered
    refine ⟨offset, sorts, projection, filtered, hsorts, hprojection, hfiltered, ?_, ?_⟩
    · rw [← pure_eq_ok.1 hpage, List.append_nil]
    · have htables := tables_of_requireComplete (requireComplete_of_pageOffset hoffset)
      rw [countSql, countColumnSql_of_ungrouped hgroups htables, hfiltered]
      rfl

/-- Orders of a customer are counted over the join that they are numbered over. -/
theorem total_composes_with_page_of_joined_orders :
    ∃ query page filtered, Query.parse ("SELECT c.Id FROM Customer c INNER JOIN Orders o " ++
        "ON o.CustomerId = c.Id WHERE o.Total > 100 ORDER BY c.Id").toList = .ok query ∧
      query.groups = [] ∧ query.pageSql { size := 5 } = .ok page ∧
      query.filteredSql true = .ok filtered ∧
      query.countSql = .ok ("SELECT COUNT(*) AS count".toList ++ filtered) ∧
      query.pageSql { size := 5, withTotal := true } =
        .ok (page ++ Phrase.also ++ "SELECT COUNT(*) AS count".toList ++ filtered) := by
  let query : Query := {
    fields := [{ table := some ['c'], name := "Id".toList }]
    tables := [{ name := "Customer".toList, aliasName := some ['c'] }]
    joins := [{
      table := { name := "Orders".toList, aliasName := some ['o'] }
      localField := { table := some ['o'], name := "CustomerId".toList }
      foreignField := { table := some ['c'], name := "Id".toList } }]
    filter := some (.raw "o.Total > 100".toList)
    sorts := [{ field := { table := some ['c'], name := "Id".toList } }] }
  obtain ⟨hruns, -, hrows⟩ := total_composes_with_page query { size := 5 } { name := "Id".toList }
  obtain ⟨offset, sorts, projection, filtered, -, -, hfiltered, -, hcount⟩ := hrows _ rfl rfl
  obtain ⟨total, htotal, htogether⟩ := hruns
  refine ⟨query, _, filtered, rfl, rfl, rfl, hfiltered, hcount, ?_⟩
  rw [List.append_assoc, ← Except.ok.inj (hcount.symm.trans htotal)] at htogether
  rw [List.append_assoc, List.append_assoc]
  exact htogether

end Query

end SqlSelect
