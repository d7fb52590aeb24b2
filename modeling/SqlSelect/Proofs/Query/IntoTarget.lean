import SqlSelect.Query.Edit
import SqlSelect.Query.Parser
import SqlSelect.Proofs.Query.PageParts

/-!
The target table of a query in the statements that are derived from it. A count and a page are
statements of their own, so where they hold the whole statement of the query they hold its target as
well. Main statement: which of them are the same with and without a target.
-/

set_option autoImplicit false
set_option relaxedAutoImplicit false

namespace SqlSelect

/-- The second text is the first one with `added` put into it in a number of places. -/
private inductive Text.Inserted (added : Text) : Nat → Text → Text → Prop where
  | same (text : Text) : Inserted added 0 text text
  | here : Inserted added 1 [] added
  | append {m n : Nat} {left left' right right' : Text} (first : Inserted added m left left')
      (second : Inserted added n right right') :
      Inserted added (m + n) (left ++ right) (left' ++ right')

namespace Text.Inserted

variable {added short long : Text} {copies : Nat}

private theorem before (h : Inserted added copies short long) (back : Text) :
    Inserted added copies (short ++ back) (long ++ back) := h.append (.same back)

private theorem behind (h : Inserted added copies short long) (front : Text) :
    Inserted added copies (front ++ short) (front ++ long) := by
  have hboth := (Inserted.same front).append h
  rwa [Nat.zero_add] at hboth

private theorem length_eq (h : Inserted added copies short long) :
    long.length = short.length + copies * added.length := by
  induction h with
  | same text => rw [Nat.zero_mul, Nat.add_zero]
  | here => simp
  | append _ _ ihleft ihright =>
    rw [List.length_append, List.length_append, ihleft, ihright, Nat.add_mul]
    omega

private theorem eq_of_no_copy (h : Inserted added copies short long) (hcopies : copies = 0) :
    long = short := by
  induction h with
  | same text => rfl
  | here => cases hcopies
  | append _ _ ihleft ihright =>
    rw [ihleft (Nat.eq_zero_of_add_eq_zero hcopies).1, ihright (Nat.eq_zero_of_add_eq_zero hcopies).2]

private theorem eq_of_nil (h : Inserted added copies short long) (hadded : added = []) :
    long = short := by
  induction h with
  | same text => rfl
  | here => exact hadded
  | append _ _ ihleft ihright => rw [ihleft, ihright]

private theorem eq_iff (h : Inserted added copies short long) :
    long = short ↔ added = [] ∨ copies = 0 := by
  refine ⟨fun hsame => ?_, fun hnone => hnone.elim h.eq_of_nil h.eq_of_no_copy⟩
  have hlength := h.length_eq
  rw [hsame, Nat.left_eq_add, Nat.mul_eq_zero] at hlength
  exact hlength.symm.imp List.length_eq_zero_iff.1 id

end Text.Inserted

/-- Two outcomes that are the same, or the same but for `added` in a number of places. -/
private def Carries (added : Text) (copies : Nat) (plain carrying : Except SqlError Text) : Prop :=
  match plain, carrying with
  | .ok short, .ok long => Text.Inserted added copies short long
  | .error cause, .error other => other = cause
  | _, _ => False

section Carrying

variable {α : Type} {added : Text} {copies : Nat} {plain carrying : Except SqlError Text}

private theorem carries_same (written : Except SqlError Text) :
    Carries added 0 written written := by
  cases written with
  | error cause => exact rfl
  | ok text => exact .same text

private theorem Carries.bind {m : Nat} {next next' : Text → Except SqlError Text}
    (h : Carries added m plain carrying)
    (hnext : ∀ short long, Text.Inserted added m short long →
      Carries added copies (next short) (next' long)) :
    Carries added copies (plain >>= next) (carrying >>= next') := by
  cases plain with
  | error cause =>
    cases carrying with
    | error other => exact h
    | ok long => exact h.elim
  | ok short =>
    cases carrying with
    | error other => exact h.elim
    | ok long => exact hnext short long h

private theorem carries_behind (first : Except SqlError α) {next next' : α → Except SqlError Text}
    (h : ∀ a, Carries added copies (next a) (next' a)) :
    Carries added copies (first >>= next) (first >>= next') := by
  cases first with
  | error cause => exact rfl
  | ok a => exact h a

private theorem Carries.eq_iff (h : Carries added copies plain carrying) :
    carrying = plain ↔ added = [] ∨ copies = 0 ∨ ∃ cause, plain = .error cause := by
  cases plain with
  | error cause =>
    cases carrying with
    | error other => exact iff_of_true (congrArg _ h) (.inr (.inr ⟨cause, rfl⟩))
    | ok long => exact h.elim
  | ok short =>
    cases carrying with
    | error other => exact h.elim
    | ok long =>
      have htexts : Text.Inserted added copies short long := h
      simp [htexts.eq_iff]

end Carrying

namespace Query

/-- How many times the rows of a query are written as its whole statement, where that is not needed
for a query without groups. -/
private def groupedCopies (query : Query) : Nat := if query.groups.isEmpty then 0 else 1

private def totalCopies (query : Query) (request : PageRequest) : Nat :=
  if request.withTotal then query.groupedCopies else 0

variable {query : Query}

private theorem groupedCopies_of_ungrouped (hgroups : query.groups = []) :
    query.groupedCopies = 0 := by
  rw [groupedCopies, if_pos (by rw [hgroups]; rfl)]

private theorem groupedCopies_of_grouped (hgroups : query.groups ≠ []) :
    query.groupedCopies = 1 := by
  rw [groupedCopies, if_neg (by simpa using hgroups)]

variable (hplain : query.into = none) (name : Text)

include hplain

private theorem carries_sql : Carries (intoText (some name)) 1 (query.sql false)
    ((query.withInto name).sql false) := by
  rw [sql_eq, sql_eq, hplain]
  refine carries_behind query.requireComplete fun _ => ?_
  refine carries_behind query.projectionSql fun projection => ?_
  refine carries_behind query.sourcesSql fun sources => ?_
  refine carries_behind (query.filterSql query.ignoresEmpty) fun filter => ?_
  refine carries_behind (Field.sqls query.groups) fun groups => ?_
  refine carries_behind (Condition.clauseSql query.ignoresEmpty Phrase.having query.having)
    fun having => ?_
  refine carries_behind (entriesIf false (SortKey.sqls true query.sorts)) fun sorts => ?_
  exact (((((Text.Inserted.here.behind _).before sources).before filter).before _).before _).before _

private theorem carries_countColumnSql (column : Text) :
    Carries (intoText (some name)) query.groupedCopies (query.countColumnSql column)
      ((query.withInto name).countColumnSql column) := by
  by_cases hgroups : query.groups = []
  · have hsame : (query.withInto name).countColumnSql column = query.countColumnSql column := by
      have hnone : (query.withInto name).groups = [] := hgroups
      simp only [countColumnSql, hgroups, hnone, List.isEmpty_nil, if_true]
      rfl
    rw [hsame, groupedCopies_of_ungrouped hgroups]
    exact carries_same _
  · have htargeted := @countColumnSql_of_grouped (query.withInto name) hgroups column
    rw [htargeted, countColumnSql_of_grouped hgroups, groupedCopies_of_grouped hgroups]
    refine (carries_sql hplain name).bind fun short long hrows => ?_
    exact (hrows.behind _).before _

private theorem carries_totalSql (request : PageRequest) (column : Except SqlError Text) :
    Carries (intoText (some name)) (query.totalCopies request) (query.totalSql request column)
      ((query.withInto name).totalSql request column) := by
  rw [totalSql, totalSql, totalCopies]
  split
  · refine carries_behind column fun column => ?_
    refine (carries_countColumnSql hplain name column).bind fun short long hcount => ?_
    exact hcount.behind _
  · exact carries_same _

private theorem carries_pageSql (request : PageRequest) :
    Carries (intoText (some name)) (query.totalCopies request) (query.pageSql request)
      ((query.withInto name).pageSql request) := by
  -- a page has its own temporary table in place of the target, so only its total carries one
  have htotal := carries_totalSql hplain name request (.ok ['*'])
  by_cases hgroups : query.groups = []
  · have htargeted := @pageSql_of_ungrouped (query.withInto name) request hgroups
    rw [htargeted, pageSql_of_ungrouped hgroups]
    refine carries_behind (query.pageOffset request) fun offset => ?_
    refine carries_behind query.numberedSql fun numbered => ?_
    exact htotal.bind fun short long h => h.behind _
  · have htargeted := @pageSql_of_grouped (query.withInto name) request hgroups
    rw [htargeted, pageSql_of_grouped hgroups]
    refine carries_behind (query.pageOffset request) fun offset => ?_
    refine carries_behind ((query.withTemporary request).sql true) fun rows => ?_
    refine carries_behind (query.sortsSql false) fun sorts => ?_
    exact htotal.bind fun short long h => h.behind _

private theorem carries_numberedGroupsSql :
    Carries (intoText (some name)) query.groupedCopies query.numberedGroupsSql
      (query.withInto name).numberedGroupsSql := by
  by_cases hgroups : query.groups = []
  · have htargeted := @numberedGroupsSql_of_ungrouped (query.withInto name) hgroups
    rw [htargeted, numberedGroupsSql_of_ungrouped hgroups, groupedCopies_of_ungrouped hgroups]
    exact carries_same query.numberedSql
  · have htargeted := @numberedGroupsSql_of_grouped (query.withInto name) hgroups
    rw [htargeted, numberedGroupsSql_of_grouped hgroups, groupedCopies_of_grouped hgroups]
    refine carries_behind (query.sortsSql false) fun sorts => ?_
    refine (carries_sql hplain name).bind fun short long hrows => ?_
    exact (hrows.behind _).before _

private theorem carries_pageByColumnSql (request : PageRequest) (field : Field) :
    Carries (intoText (some name)) (1 + query.groupedCopies + query.totalCopies request)
      (query.pageByColumnSql request field)
      ((query.withInto name).pageByColumnSql request field) := by
  -- the statement stands there once for the rows, and once more for the numbers of grouped
  -- rows
  refine carries_behind (query.pageOffset request) fun offset => ?_
  refine (carries_sql hplain name).bind fun rows rows' hrows => ?_
  refine carries_behind (field.sql false) fun column => ?_
  refine Carries.bind (m := query.groupedCopies) ?_ fun window window' hwindow => ?_
  · refine (carries_numberedGroupsSql hplain name).bind fun short long hnumbered => ?_
    exact (((((hnumbered.behind _).before _).before _).before _).before _)
  refine carries_behind (query.sortsSql false) fun sorts => ?_
  refine (carries_totalSql hplain name request _).bind fun total total' htotal => ?_
  have hresults := ((hrows.behind (Phrase.select ++ Phrase.allFrom)).before Phrase.asResults).before
    column
  have hmembers := (hresults.before Phrase.isIn).append hwindow
  exact ((hmembers.before (')' :: Phrase.sorts)).before sorts).append htotal

omit hplain in
private theorem intoText_eq_nil_iff : intoText (some name) = [] ↔ bareTempName name = [] := by
  cases hbare : bareTempName name with
  | nil => simp [intoText, clauseText, hbare]
  | cons c cs => simp [intoText, clauseText, hbare]

/-- A statement that is derived from a query with a target is the same as without the target exactly
if the target has no name, or the statement cannot be written, or holds the statement of the query
nowhere: a count and a page need that for grouped rows, but a page only for its total, and a page of
column values always holds it. -/
theorem derived_ignore_target_iff (column : Text) (request : PageRequest) (field : Field) :
    ((query.withInto name).countSql = query.countSql ↔
      bareTempName name = [] ∨ query.groups = [] ∨ ∃ cause, query.countSql = .error cause) ∧
    ((query.withInto name).countColumnSql column = query.countColumnSql column ↔
      bareTempName name = [] ∨ query.groups = [] ∨
        ∃ cause, query.countColumnSql column = .error cause) ∧
    ((query.withInto name).pageSql request = query.pageSql request ↔
      bareTempName name = [] ∨ (query.groups = [] ∨ request.withTotal = false) ∨
        ∃ cause, query.pageSql request = .error cause) ∧
    ((query.withInto name).pageByColumnSql request field = query.pageByColumnSql request field ↔
      bareTempName name = [] ∨ ∃ cause, query.pageByColumnSql request field = .error cause) := by
  have hgrouped : query.groupedCopies = 0 ↔ query.groups = [] := by simp [groupedCopies]
  have htotal : query.totalCopies request = 0 ↔ query.groups = [] ∨ request.withTotal = false := by
    cases hwith : request.withTotal <;> simp [totalCopies, hwith, hgrouped]
  have hcolumn : 1 + query.groupedCopies + query.totalCopies request ≠ 0 := by omega
  refine ⟨?_, ?_, ?_, ?_⟩
  · rw [← intoText_eq_nil_iff, ← hgrouped]
    exact (carries_countColumnSql hplain name ['*']).eq_iff
  · rw [← intoText_eq_nil_iff, ← hgrouped]
    exact (carries_countColumnSql hplain name column).eq_iff
  · rw [← intoText_eq_nil_iff, ← htotal]
    exact (carries_pageSql hplain name request).eq_iff
  · rw [(carries_pageByColumnSql hplain name request field).eq_iff, intoText_eq_nil_iff,
      or_iff_right hcolumn]

omit hplain in
/-- The kinds of orders are counted out of a derived table that is put into another table. -/
theorem derived_ignore_target_iff_of_counted_kinds :
    ∃ query, Query.parse "SELECT Kind FROM Orders GROUP BY Kind ORDER BY Kind".toList = .ok query ∧
      query.into = none ∧
      query.countSql = .ok "SELECT COUNT(*) FROM (SELECT Kind FROM Orders GROUP BY Kind) AS count".toList ∧
      (query.withInto ['t']).countSql =
        .ok "SELECT COUNT(*) FROM (SELECT Kind INTO #t FROM Orders GROUP BY Kind) AS count".toList ∧
      (query.withInto ['t']).countSql ≠ query.countSql ∧
      (query.withInto ['t']).pageSql {} = query.pageSql {} ∧
      (query.withInto ['t']).pageByColumnSql {} { name := "Kind".toList } ≠
        query.pageByColumnSql {} { name := "Kind".toList } := by
  let query : Query := {
    fields := [{ name := "Kind".toList }]
    tables := [{ name := "Orders".toList }]
    groups := [{ name := "Kind".toList }]
    sorts := [{ field := { name := "Kind".toList } }] }
  obtain ⟨hcount, -, hpage, hcolumn⟩ :=
    @derived_ignore_target_iff query rfl ['t'] [] {} { name := "Kind".toList }
  refine ⟨query, rfl, rfl, rfl, rfl, ?_, ?_, ?_⟩
  · rw [Ne, hcount]
    rintro (hbare | hgroups | ⟨cause, hcause⟩)
    · cases hbare
    · cases hgroups
    · cases hcause
  · exact hpage.2 (.inr (.inl (.inr rfl)))
  · rw [Ne, hcolumn]
    rintro (hbare | ⟨cause, hcause⟩)
    · cases hbare
    · cases hcause

end Query

end SqlSelect
