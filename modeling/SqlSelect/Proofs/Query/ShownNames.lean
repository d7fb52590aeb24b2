import SqlSelect.Proofs.Query.PlainShape
import SqlSelect.Proofs.Query.TemporaryPage
import Mathlib.Data.List.Nodup

/-!
The columns that a page of grouped rows is sorted by. The rows of the page come from a table in which
every selected field is a column under its alias, or under its name if it has none; the sort keys are
written with the bare names of their fields. Main statement: each key sorts by a column that shows
its field exactly if the fields that are sorted by are shown under their own names.
-/

set_option autoImplicit false
set_option relaxedAutoImplicit false

namespace SqlSelect

/-- The name under which a table of the selected rows shows a field. -/
def Field.shownName (field : Field) : Text :=
  match field.aliasName with
  | some (c :: rest) => c :: rest
  | _ => field.name

/-- A key sorts by a selected field if both name one column of one table. -/
def SortKey.SortsBy (key : SortKey) (selected : Field) : Prop :=
  key.field.name = selected.name ∧ key.field.table = selected.table

/-- The sort keys behind `ORDER BY`, each with the column that is written for it. -/
def orderText (sorts : List SortKey) (columns : List Text) : Text :=
  Text.joinWith Phrase.comma
    (List.zipWith (fun key column => sortText column key.direction) sorts columns)

/-- A page of column values, taken apart at its rows and at its order. -/
structure ResultsPage where
  /-- The statement whose rows are looked up. -/
  rows : Text
  column : Text
  /-- The values of the column on the page. -/
  window : Text
  order : Text
  /-- The count that is run together with the page. -/
  total : Text

def ResultsPage.sql (page : ResultsPage) : Text :=
  Phrase.select ++ Phrase.allFrom ++ page.rows ++ Phrase.asResults ++ page.column ++ Phrase.isIn ++
    page.window ++ ')' :: Phrase.sorts ++ page.order ++ page.total

namespace Query

/-- The selected field that a table of the rows shows under a name. -/
def shownAs? (query : Query) (name : Text) : Option Field :=
  query.fields.find? fun field => field.shownName = name

/-- The projection of a query lists columns, and no two of them are shown under one name. -/
structure SelectsColumns (query : Query) : Prop where
  listed : query.selectsAll = false
  columns : ∀ field ∈ query.fields, field.IsColumn
  distinct : (query.fields.map Field.shownName).Nodup

/-- Each key of a query sorts by the column that shows its field. -/
def SortsByShown (query : Query) (columns : List Text) : Prop :=
  List.Forall₂ (fun key column => ∃ selected,
    query.shownAs? column = some selected ∧ key.SortsBy selected) query.sorts columns

/-- Every field that a query sorts by is selected and shown under its own name. -/
def ShowsSorted (query : Query) : Prop :=
  ∀ key ∈ query.sorts, key.field.nested = none ∧
    ∃ selected ∈ query.fields, key.SortsBy selected ∧ selected.shownName = selected.name

end Query

private theorem Field.IsColumn.isPlainName_shownName {field : Field} (h : field.IsColumn) :
    field.shownName.IsPlainName := by
  rw [Field.shownName]
  split
  · next c rest halias => exact h.aliasName _ halias
  · exact h.name

private theorem Field.sql_without_table {field : Field} {column : Text}
    (h : field.sql false = .ok column) :
    field.nested = none ∧ column = field.name ∨ field.nested ≠ none ∧ '(' ∈ column := by
  rcases Field.sql_eq_ok h with ⟨hnested, rfl⟩ | ⟨query, inner, hnested, -, rfl⟩
  · exact .inl ⟨hnested, rfl⟩
  · refine .inr ⟨by rw [hnested]; exact Option.some_ne_none query, ?_⟩
    have hopening : '(' ∈ Phrase.nested := by decide
    simp [hopening]

private theorem SortKey.exists_columns {withTable : Bool} {keys : List SortKey} {texts : List Text}
    (h : SortKey.sqls withTable keys = .ok texts) :
    ∃ columns, List.Forall₂ (fun key column => key.field.sql withTable = .ok column) keys columns ∧
      texts = List.zipWith (fun key column => sortText column key.direction) keys columns := by
  induction keys generalizing texts with
  | nil => exact ⟨[], .nil, (pure_eq_ok.1 h).symm⟩
  | cons key rest ih =>
    obtain ⟨field, direction⟩ := key
    rw [SortKey.sqls] at h
    obtain ⟨first, hfirst, h⟩ := bind_eq_ok.1 h
    obtain ⟨others, hothers, h⟩ := bind_eq_ok.1 h
    obtain ⟨columns, hcolumns, rfl⟩ := ih hothers
    rw [SortKey.sql] at hfirst
    obtain ⟨column, hcolumn, hfirst⟩ := bind_eq_ok.1 hfirst
    refine ⟨column :: columns, .cons hcolumn hcolumns, ?_⟩
    rw [← pure_eq_ok.1 h, ← pure_eq_ok.1 hfirst]
    rfl

namespace Query

variable {query : Query} {request : PageRequest} {field : Field}

private theorem exists_columns_of_sortsSql {order : Text} (h : query.sortsSql false = .ok order) :
    ∃ columns,
      List.Forall₂ (fun key column => key.field.sql false = .ok column) query.sorts columns ∧
      order = orderText query.sorts columns := by
  obtain ⟨texts, htexts, h⟩ := bind_eq_ok.1 h
  obtain ⟨columns, hcolumns, rfl⟩ := SortKey.exists_columns htexts
  exact ⟨columns, hcolumns, (pure_eq_ok.1 h).symm⟩

private theorem exists_resultsPage {page : Text}
    (h : query.pageByColumnSql request field = .ok page) :
    ∃ parts : ResultsPage, parts.sql = page ∧ query.sql false = .ok parts.rows ∧
      query.sortsSql false = .ok parts.order := by
  obtain ⟨offset, -, h⟩ := bind_eq_ok.1 h
  obtain ⟨rows, hrows, h⟩ := bind_eq_ok.1 h
  obtain ⟨column, -, h⟩ := bind_eq_ok.1 h
  obtain ⟨window, -, h⟩ := bind_eq_ok.1 h
  obtain ⟨order, horder, h⟩ := bind_eq_ok.1 h
  obtain ⟨total, -, h⟩ := bind_eq_ok.1 h
  exact ⟨⟨rows, column, window, order, total⟩, pure_eq_ok.1 h, hrows, horder⟩

section Selecting

variable (hselects : query.SelectsColumns)

include hselects

private theorem SelectsColumns.projectionSql_eq :
    query.projectionSql = .ok (Text.joinWith Phrase.comma (query.fields.map Field.columnText)) := by
  have hwritten : ∀ field ∈ query.fields, field.IsWritten := by
    intro field hfield
    have hnested := (hselects.columns field hfield).nested
    refine ⟨_, Field.sql_of_nested_eq_none hnested, ?_⟩
    rw [Field.text, hnested]
    rfl
  have htexts : query.fields.map Field.text = query.fields.map Field.columnText := by
    refine List.map_congr_left fun field hfield => ?_
    rw [Field.text, (hselects.columns field hfield).nested]
  rw [projectionSql, hselects.listed, Field.selectSqls_eq hwritten, htexts]
  rfl

private theorem SelectsColumns.shownAs?_eq_some_iff {name : Text} {selected : Field} :
    query.shownAs? name = some selected ↔ selected ∈ query.fields ∧ selected.shownName = name := by
  constructor
  · intro h
    have hname := List.find?_some h
    exact ⟨List.mem_of_find?_eq_some h, by simpa using hname⟩
  · rintro ⟨hmem, rfl⟩
    have hfound : (query.shownAs? selected.shownName).isSome = true := by
      rw [shownAs?, List.find?_isSome]
      exact ⟨selected, hmem, by simp⟩
    obtain ⟨other, hother⟩ := Option.isSome_iff_exists.1 hfound
    have hname : other.shownName = selected.shownName := by simpa using List.find?_some hother
    have hsame := List.inj_on_of_nodup_map hselects.distinct (List.mem_of_find?_eq_some hother) hmem hname
    rw [hother, hsame]

private theorem SelectsColumns.sortsByShown_key_iff {key : SortKey} {column : Text}
    (hcolumn : key.field.sql false = .ok column) :
    (∃ selected, query.shownAs? column = some selected ∧ key.SortsBy selected) ↔
      key.field.nested = none ∧
        ∃ selected ∈ query.fields, key.SortsBy selected ∧ selected.shownName = selected.name := by
  -- a name with parentheses is no name of a column
  simp only [hselects.shownAs?_eq_some_iff]
  rcases Field.sql_without_table hcolumn with ⟨hnested, rfl⟩ | ⟨hnested, hopening⟩
  · constructor
    · rintro ⟨selected, ⟨hmem, hshown⟩, hsorts⟩
      exact ⟨hnested, selected, hmem, hsorts, hshown.trans hsorts.1⟩
    · rintro ⟨-, selected, hmem, hsorts, hshown⟩
      exact ⟨selected, ⟨hmem, hshown.trans hsorts.1.symm⟩, hsorts⟩
  · constructor
    · rintro ⟨selected, ⟨hmem, rfl⟩, -⟩
      have hname := (hselects.columns selected hmem).isPlainName_shownName
      exact absurd hopening (hname.notMem (by decide))
    · rintro ⟨hnone, -⟩
      exact absurd hnone hnested

private theorem SelectsColumns.sortsByShown_iff {columns : List Text}
    (hcolumns : List.Forall₂ (fun key column => key.field.sql false = .ok column) query.sorts columns) :
    query.SortsByShown columns ↔ query.ShowsSorted := by
  rw [SortsByShown, ShowsSorted]
  generalize query.sorts = keys at hcolumns ⊢
  induction hcolumns with
  | nil => simp
  | cons hcolumn _ ih =>
    rw [List.forall₂_cons, List.forall_mem_cons, ih, hselects.sortsByShown_key_iff hcolumn]

/-- The projection of a query lists its fields with their aliases. A page of its groups numbers the
rows of a table with these columns, and a page of column values sorts such a table. In both the keys
sort by the columns that show their fields exactly if each of these fields is shown under its own
name; a field with an alias is shown under that, but sorted by under its name. -/
theorem page_sorts_by_shown_iff (hgroups : query.groups ≠ []) (request : PageRequest)
    (field : Field) :
    query.projectionSql = .ok (Text.joinWith Phrase.comma (query.fields.map Field.columnText)) ∧
      (∀ page, query.pageSql request = .ok page → ∃ parts columns,
        TemporaryPage.sql parts = page ∧ query.sortsSql false = .ok parts.order ∧
        parts.order = orderText query.sorts columns ∧
        (query.SortsByShown columns ↔ query.ShowsSorted)) ∧
      (∀ page, query.pageByColumnSql request field = .ok page → ∃ parts columns,
        ResultsPage.sql parts = page ∧ query.sql false = .ok parts.rows ∧
        query.sortsSql false = .ok parts.order ∧ parts.order = orderText query.sorts columns ∧
        (query.SortsByShown columns ↔ query.ShowsSorted)) := by
  refine ⟨hselects.projectionSql_eq, ?_, ?_⟩
  · intro page hpage
    obtain ⟨parts, hparts, -, horder, -⟩ := exists_temporaryPage hgroups hpage
    obtain ⟨columns, hcolumns, htext⟩ := exists_columns_of_sortsSql horder
    exact ⟨parts, columns, hparts, horder, htext, hselects.sortsByShown_iff hcolumns⟩
  · intro page hpage
    obtain ⟨parts, hparts, hrows, horder⟩ := exists_resultsPage hpage
    obtain ⟨columns, hcolumns, htext⟩ := exists_columns_of_sortsSql horder
    exact ⟨parts, columns, hparts, hrows, horder, htext, hselects.sortsByShown_iff hcolumns⟩

end Selecting

/-- Customers are shown under another name than the one their groups are sorted by. -/
theorem page_sorts_by_shown_iff_of_renamed_customer :
    ∃ query page parts columns results others otherColumns,
      Query.parse ("SELECT o.CustomerId AS Customer FROM Orders o " ++
        "GROUP BY o.CustomerId ORDER BY o.CustomerId").toList = .ok query ∧
      query.groups ≠ [] ∧ query.SelectsColumns ∧
      query.projectionSql = .ok "o.CustomerId AS Customer".toList ∧
      query.pageSql { size := 10 } = .ok page ∧ TemporaryPage.sql parts = page ∧
      parts.order = "CustomerId ASC".toList ∧ parts.order = orderText query.sorts columns ∧
      ¬query.SortsByShown columns ∧
      query.pageByColumnSql { size := 10 } { name := "Customer".toList } = .ok results ∧
      ResultsPage.sql others = results ∧ others.order = "CustomerId ASC".toList ∧
      others.order = orderText query.sorts otherColumns ∧ ¬query.SortsByShown otherColumns := by
  let customer : Field := { name := "CustomerId".toList, table := some ['o'] }
  let query : Query := {
    fields := [{ customer with aliasName := some "Customer".toList }]
    tables := [{ name := "Orders".toList, aliasName := some ['o'] }]
    groups := [customer]
    sorts := [{ field := customer }] }
  have hgroups : query.groups ≠ [] := by decide
  have hselects : query.SelectsColumns := by
    refine ⟨rfl, fun field hfield => ?_, by decide⟩
    obtain rfl := List.mem_singleton.1 hfield
    exact ⟨by decide, by decide, by decide, rfl⟩
  have hrenamed : ¬query.ShowsSorted := by
    intro h
    obtain ⟨-, selected, hmem, -, hshown⟩ := h _ (List.mem_singleton_self _)
    obtain rfl := List.mem_singleton.1 hmem
    exact absurd hshown (by decide)
  obtain ⟨-, hpage, hresults⟩ :=
    page_sorts_by_shown_iff hselects hgroups { size := 10 } { name := "Customer".toList }
  obtain ⟨parts, columns, hparts, hsorts, horder, hiff⟩ := hpage _ rfl
  obtain ⟨others, otherColumns, hothers, -, hsorts', horder', hiff'⟩ := hresults _ rfl
  refine ⟨query, _, parts, columns, _, others, otherColumns, rfl, hgroups, hselects, rfl, rfl, hparts,
    ?_, horder, mt hiff.1 hrenamed, rfl, hothers, ?_, horder', mt hiff'.1 hrenamed⟩
  · exact (Except.ok.inj hsorts).symm
  · exact (Except.ok.inj hsorts').symm

end Query

end SqlSelect
