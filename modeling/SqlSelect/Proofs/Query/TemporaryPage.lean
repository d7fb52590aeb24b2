import SqlSelect.Query.Parser
import SqlSelect.Proofs.Query.PageParts
import SqlSelect.Proofs.Text.Spacing

/-!
The temporary table of a page of grouped rows. The page puts the rows into a table, reads them from
it in the order of the query, and drops it. Main statement: this is one and the same table exactly
if more than signs `#` is left of its name when the blanks around it are taken away; otherwise the
rows are put nowhere, and a table without a name is read and dropped.
-/

set_option autoImplicit false
set_option relaxedAutoImplicit false

namespace SqlSelect

/-- A page of grouped rows, taken apart at the places where it names a table of its own. -/
structure TemporaryPage where
  /-- The row limit and the projection of the rows. -/
  selected : Text
  /-- The table that the rows are put into. -/
  created : Option Text
  /-- What the rows range over, their groups and their order. -/
  source : Text
  size : Nat
  /-- The order that the rows are numbered in. -/
  order : Text
  /-- The table that the rows are read from. -/
  read : Text
  offset : Nat
  /-- The table that is dropped. -/
  dropped : Text
  /-- The count that is run together with the page. -/
  total : Text

namespace TemporaryPage

def createdText : Option Text → Text
  | none => []
  | some table => " INTO ".toList ++ table

def materialized (page : TemporaryPage) : Text :=
  page.selected ++ createdText page.created ++ page.source

def numbered (page : TemporaryPage) : Text :=
  Phrase.numbering ++ page.order ++ Phrase.asRowNumber ++ Phrase.starFrom ++ page.read

def sql (page : TemporaryPage) : Text :=
  page.materialized ++ Phrase.also ++ Phrase.selectTop ++ Text.ofNat page.size ++
    ' ' :: Phrase.allFrom ++ page.numbered ++ Phrase.asTemporary ++ Phrase.window ++
    Text.ofNat page.offset ++ Phrase.dropTable ++ page.dropped ++ page.total

end TemporaryPage

private theorem bareTempName_eq_nil_iff (name : Text) :
    bareTempName name = [] ↔ ∀ c ∈ Text.trim name, c = '#' := by
  rw [bareTempName, Text.dropLeading, List.dropWhile_eq_nil_iff]
  simp only [beq_iff_eq]

private theorem trimEnd_bareTempName (name : Text) :
    Text.trimEnd ('#' :: bareTempName name) = '#' :: bareTempName name := by
  have hsuffix : bareTempName name <:+ Text.trim name := List.dropWhile_suffix _
  exact Text.trimEnd_cons (by decide) (Text.trimEnd_eq_self_of_suffix (Text.trimEnd_trim name) hsuffix)

private theorem bareTempName_tempName (request : PageRequest) :
    bareTempName request.tempName = bareTempName request.tempTable := by
  have htrim : Text.trim request.tempName = request.tempName := trimEnd_bareTempName request.tempTable
  calc bareTempName request.tempName
      = Text.dropLeading '#' request.tempName := congrArg (Text.dropLeading '#') htrim
    _ = Text.dropLeading '#' (bareTempName request.tempTable) := rfl
    _ = bareTempName request.tempTable := List.dropWhile_idempotent _ _

/-- The table that the rows of a page are put into: none if it has no name. -/
def PageRequest.createdTable (request : PageRequest) : Option Text :=
  if bareTempName request.tempTable = [] then none else some request.tempName

private theorem intoText_tempName (request : PageRequest) :
    intoText (some request.tempName) = TemporaryPage.createdText request.createdTable := by
  rw [intoText, clauseText, bareTempName_tempName, PageRequest.createdTable]
  by_cases hbare : bareTempName request.tempTable = []
  · rw [if_pos hbare, hbare]
    rfl
  · rw [if_neg hbare, if_neg (by simpa using hbare)]
    rfl

namespace Query

variable {query : Query} {request : PageRequest} {page : Text}

def withoutInto (query : Query) : Query := { query with into := none }

private def aroundInto (ordered : Bool) (query : Query) : Except SqlError (Text × Text) := do
  query.requireComplete
  let projection ← query.projectionSql
  let sources ← query.sourcesSql
  let filter ← query.filterSql query.ignoresEmpty
  let groups ← Field.sqls query.groups
  let having ← Condition.clauseSql query.ignoresEmpty Phrase.having query.having
  let sorts ← entriesIf ordered (SortKey.sqls true query.sorts)
  return (Phrase.select ++ topText query.top ++ projection,
    sources ++ filter ++ groupsText groups ++ having ++ sortsText sorts)

private theorem sql_eq_aroundInto (ordered : Bool) (query : Query) : query.sql ordered = (do
    let (selected, source) ← query.aroundInto ordered
    return selected ++ intoText query.into ++ source) := by
  rw [sql_eq, aroundInto]
  simp only [bind_assoc, pure_bind, List.append_assoc]

private theorem sql_withoutInto (ordered : Bool) (query : Query) :
    query.withoutInto.sql ordered = (do
    let (selected, source) ← query.aroundInto ordered
    return selected ++ source) := by
  have hnone : intoText query.withoutInto.into = [] := rfl
  have hsame : query.withoutInto.aroundInto ordered = query.aroundInto ordered := rfl
  rw [sql_eq_aroundInto, hnone, hsame]
  simp only [List.append_nil]

private theorem sql_withTemporary (ordered : Bool) (query : Query) (request : PageRequest) :
    (query.withTemporary request).sql ordered = (do
      let (selected, source) ← query.aroundInto ordered
      return selected ++ TemporaryPage.createdText request.createdTable ++ source) := by
  have hinto : intoText (query.withTemporary request).into =
      TemporaryPage.createdText request.createdTable := intoText_tempName request
  have hsame : (query.withTemporary request).aroundInto ordered = query.aroundInto ordered := rfl
  rw [sql_eq_aroundInto, hinto, hsame]

theorem exists_temporaryPage (hgroups : query.groups ≠ []) (h : query.pageSql request = .ok page) :
    ∃ parts : TemporaryPage, parts.sql = page ∧
      query.withoutInto.sql true = .ok (parts.selected ++ parts.source) ∧
      query.sortsSql false = .ok parts.order ∧ parts.created = request.createdTable ∧
      parts.read = request.tempName ∧ parts.dropped = request.tempName := by
  rw [pageSql_of_grouped hgroups] at h
  obtain ⟨offset, -, h⟩ := bind_eq_ok.1 h
  obtain ⟨rows, hrows, h⟩ := bind_eq_ok.1 h
  obtain ⟨sorts, hsorts, h⟩ := bind_eq_ok.1 h
  obtain ⟨total, -, h⟩ := bind_eq_ok.1 h
  rw [sql_withTemporary] at hrows
  obtain ⟨⟨selected, source⟩, haround, hrows⟩ := bind_eq_ok.1 hrows
  have hplain : query.withoutInto.sql true = .ok (selected ++ source) := by
    rw [sql_withoutInto, haround]
    rfl
  refine ⟨⟨selected, request.createdTable, source, request.size.toNat, sorts, request.tempName,
    offset.toNat, request.tempName, total⟩, ?_, hplain, hsorts, rfl, rfl, rfl⟩
  rw [← pure_eq_ok.1 h, ← pure_eq_ok.1 hrows, windowText, TemporaryPage.sql,
    TemporaryPage.materialized, TemporaryPage.numbered]
  simp only [List.append_assoc, List.cons_append]

/-- A page of grouped rows puts them into a table by the statement of the query, which has no other
target then, and reads and drops one table. It is the table that the rows are put into exactly if
something else than `#` is left of its name without the blanks around it. Otherwise the rows are put
nowhere, and the table that is read and dropped has no name behind its `#`. -/
theorem page_uses_one_table_iff (hgroups : query.groups ≠ [])
    (h : query.pageSql request = .ok page) :
    ∃ parts : TemporaryPage, parts.sql = page ∧
      query.withoutInto.sql true = .ok (parts.selected ++ parts.source) ∧
      parts.read = parts.dropped ∧
      (parts.created = some parts.read ↔ ∃ c ∈ Text.trim request.tempTable, c ≠ '#') ∧
      ((∀ c ∈ Text.trim request.tempTable, c = '#') →
        parts.created = none ∧ parts.read = ['#']) := by
  obtain ⟨parts, hparts, hplain, -, hcreated, hread, hdropped⟩ := exists_temporaryPage hgroups h
  have hbare := bareTempName_eq_nil_iff request.tempTable
  refine ⟨parts, hparts, hplain, hread.trans hdropped.symm, ?_, ?_⟩
  · have hnamed : (∃ c ∈ Text.trim request.tempTable, c ≠ '#') ↔
        bareTempName request.tempTable ≠ [] := by
      rw [Ne, hbare]
      push Not
      rfl
    rw [hcreated, hread, hnamed, PageRequest.createdTable]
    by_cases hnone : bareTempName request.tempTable = []
    · simp [hnone]
    · simp [hnone]
  · intro hsigns
    have hnone := hbare.2 hsigns
    constructor
    · rw [hcreated, PageRequest.createdTable, if_pos hnone]
    · rw [hread, PageRequest.tempName, hnone]

/-- Kinds of orders are put into a table of their own, but into none if that has the name `#`. -/
theorem page_uses_one_table_iff_of_bare_sign :
    ∃ query page parts others,
      Query.parse "SELECT Kind FROM Orders GROUP BY Kind ORDER BY Kind".toList = .ok query ∧
      query.groups ≠ [] ∧
      query.pageSql { size := 5, tempTable := " ##kinds ".toList } = .ok page ∧
      TemporaryPage.sql parts = page ∧ parts.created = some parts.read ∧
      parts.read = parts.dropped ∧
      query.pageSql { size := 5, tempTable := " # ".toList } = .ok (TemporaryPage.sql others) ∧
      others.created = none ∧ others.read = ['#'] ∧ others.dropped = ['#'] := by
  let query : Query := {
    fields := [{ name := "Kind".toList }]
    tables := [{ name := "Orders".toList }]
    groups := [{ name := "Kind".toList }]
    sorts := [{ field := { name := "Kind".toList } }] }
  have hgroups : query.groups ≠ [] := by decide
  obtain ⟨parts, hparts, -, hdropped, hone, -⟩ :=
    @page_uses_one_table_iff query { size := 5, tempTable := " ##kinds ".toList } _ hgroups rfl
  obtain ⟨others, hothers, -, hsame, -, hnone⟩ :=
    @page_uses_one_table_iff query { size := 5, tempTable := " # ".toList } _ hgroups rfl
  have hletter : ∃ c ∈ Text.trim " ##kinds ".toList, c ≠ '#' := ⟨'k', by decide, by decide⟩
  have hsign : Text.trim " # ".toList = ['#'] := by decide
  have hsigns : ∀ c ∈ Text.trim " # ".toList, c = '#' := by
    intro c hc
    rw [hsign] at hc
    exact List.mem_singleton.1 hc
  obtain ⟨hcreated, hread⟩ := hnone hsigns
  exact ⟨query, _, parts, others, rfl, hgroups, rfl, hparts, hone.2 hletter, hdropped,
    congrArg Except.ok hothers.symm, hcreated, hread, hsame.symm.trans hread⟩

end Query

end SqlSelect
