import SqlSelect.Proofs.Query.Projection
import SqlSelect.Proofs.Query.Segments

/-!
Queries of plain parts, and what is written for them. Main statement: if its fields can be written,
such a query is written as a row of clean texts, one for each clause.
-/

set_option autoImplicit false
set_option relaxedAutoImplicit false

namespace SqlSelect

def Query.written (query : Query) : Text := (query.sql true).toOption.getD []

namespace Field

def text (field : Field) : Text :=
  match field.nested with
  | none => field.columnText
  | some query => nestedText field.name query.written

/-- The field can be written, with the name it is shown under. -/
def IsWritten (field : Field) : Prop :=
  ∃ name, field.sql true = .ok name ∧ name ++ aliasSuffix field.aliasName = field.text

def IsSelectable (field : Field) : Prop :=
  field.IsColumn ∨ field.IsFunctionCall ∨ field.IsSubQuery

def IsKey (field : Field) : Prop := field.IsSelectable ∧ field.aliasName = none

private theorem IsWritten.sql_eq {field : Field} (h : field.IsWritten)
    (halias : field.aliasName = none) :
    field.sql true = .ok field.text := by
  obtain ⟨name, hname, htext⟩ := h
  have hbare : aliasSuffix none = [] := rfl
  rw [halias, hbare, List.append_nil] at htext
  rw [hname, htext]

private theorem sqls_eq {fields : List Field}
    (h : ∀ field ∈ fields, field.sql true = .ok field.text) :
    Field.sqls fields = .ok (fields.map text) := by
  induction fields with
  | nil => rfl
  | cons field rest ih =>
    obtain ⟨hfield, hothers⟩ := List.forall_mem_cons.1 h
    rw [Field.sqls, hfield, ih hothers]
    rfl

theorem selectSqls_eq {fields : List Field} (h : ∀ field ∈ fields, field.IsWritten) :
    Field.selectSqls fields = .ok (fields.map text) := by
  induction fields with
  | nil => rfl
  | cons field rest ih =>
    obtain ⟨⟨name, hname, htext⟩, hothers⟩ := List.forall_mem_cons.1 h
    rw [Field.selectSqls, hname, ih hothers, List.map_cons, ← htext]
    rfl

end Field

namespace SortKey

def text (key : SortKey) : Text := sortText key.field.text key.direction

private theorem sqls_eq {sorts : List SortKey}
    (h : ∀ key ∈ sorts, key.field.sql true = .ok key.field.text) :
    SortKey.sqls true sorts = .ok (sorts.map text) := by
  induction sorts with
  | nil => rfl
  | cons key rest ih =>
    obtain ⟨hfield, hothers⟩ := List.forall_mem_cons.1 h
    obtain ⟨field, direction⟩ := key
    replace hfield : field.sql true = .ok field.text := hfield
    rw [SortKey.sqls, SortKey.sql, hfield, ih hothers]
    rfl

end SortKey

def Condition.rawText : Condition → Text
  | .raw text => text
  | _ => []

def Condition.IsCleanRaw (condition : Condition) : Prop :=
  ∃ text : Text, text.IsClean ∧ condition = .raw text

def listText? (entries : List Text) : Option Text :=
  if entries.isEmpty then none else some (Text.joinWith Phrase.comma entries)

theorem getD_listText? (entries : List Text) :
    (listText? entries).getD [] = Text.joinWith Phrase.comma entries := by
  cases entries with
  | nil => rfl
  | cons entry rest => rfl

namespace Query

def selected (query : Query) : Text :=
  Text.joinWith Phrase.comma (if query.selectsAll then [['*']] else query.fields.map Field.text)

def texts (query : Query) : StatementTexts where
  select := topText query.top ++ query.selected
  into := query.into
  tables := Text.joinWith Phrase.comma (query.tables.map TableRef.sql)
  joins := query.joins
  filter := query.filter.map Condition.rawText
  groups := listText? (query.groups.map Field.text)
  having := query.having.map Condition.rawText
  sorts := listText? (query.sorts.map SortKey.text)

def listedFields (query : Query) : List Field :=
  query.fields ++ query.groups ++ query.sorts.map SortKey.field

theorem mem_listedFields_of_fields {query : Query} {field : Field} (h : field ∈ query.fields) :
    field ∈ query.listedFields := List.mem_append_left _ (List.mem_append_left _ h)

theorem mem_listedFields_of_groups {query : Query} {field : Field} (h : field ∈ query.groups) :
    field ∈ query.listedFields := List.mem_append_left _ (List.mem_append_right _ h)

theorem mem_listedFields_of_sorts {query : Query} {key : SortKey} (h : key ∈ query.sorts) :
    key.field ∈ query.listedFields := List.mem_append_right _ (List.mem_map_of_mem h)

/-- A query of plain parts; its nested queries may be any. -/
structure HasPlainShape (query : Query) : Prop where
  selection : query.selectsAll = true ∧ query.fields = [] ∨
    query.selectsAll = false ∧ query.fields ≠ []
  fields : ∀ field ∈ query.fields, field.IsSelectable
  into : ∀ name ∈ query.into, ∃ bare : Text, bare.IsPlainName ∧ name = '#' :: bare
  filled : query.tables ≠ []
  tables : ∀ table ∈ query.tables, table.IsPlain
  joins : ∀ join ∈ query.joins, join.IsPlain
  filter : ∀ condition ∈ query.filter, condition.IsCleanRaw
  groups : ∀ field ∈ query.groups, field.IsKey
  having : ∀ condition ∈ query.having, condition.IsCleanRaw
  sorts : ∀ key ∈ query.sorts, key.field.IsKey
  top : query.top ≠ some 0
  ignoresEmpty : query.ignoresEmpty = false

namespace HasPlainShape

variable {query : Query}

theorem isSelectable (h : query.HasPlainShape) {field : Field}
    (hfield : field ∈ query.listedFields) : field.IsSelectable := by
  rw [listedFields, List.mem_append, List.mem_append] at hfield
  rcases hfield with (hfield | hfield) | hfield
  · exact h.fields field hfield
  · exact (h.groups field hfield).1
  · obtain ⟨key, hkey, rfl⟩ := List.mem_map.1 hfield
    exact (h.sorts key hkey).1

theorem isComplete (h : query.HasPlainShape) : query.isComplete = true := by
  have htables := h.filled
  rcases h.selection with ⟨hall, -⟩ | ⟨hall, hfields⟩
  · simp [Query.isComplete, hall, htables]
  · simp [Query.isComplete, hall, hfields, htables]

private theorem requireComplete_eq (h : query.HasPlainShape) : query.requireComplete = .ok () := by
  have htables := h.filled
  rw [requireComplete, completeness]
  rcases h.selection with ⟨hall, -⟩ | ⟨hall, hfields⟩
  · simp [hall, htables]
  · simp [hall, hfields, htables]

private theorem projectionSql_eq (h : query.HasPlainShape)
    (hfields : ∀ field ∈ query.listedFields, field.IsWritten) :
    query.projectionSql = .ok query.selected := by
  rw [projectionSql, selected]
  rcases h.selection with ⟨hall, -⟩ | ⟨hall, -⟩
  · rw [hall]
    rfl
  · have hwritten := Field.selectSqls_eq fun field hfield =>
      hfields field (mem_listedFields_of_fields hfield)
    rw [hall, starOr, if_neg (by decide), if_neg (by decide), hwritten]
    rfl

private theorem sourcesSql_eq (h : query.HasPlainShape) :
    query.sourcesSql = .ok (tablesText query.tables ++ joinsText (query.joins.map Join.text)) := by
  rw [sourcesSql, Join.sqls_eq h.joins]
  rfl

end HasPlainShape

end Query

private theorem Condition.clauseSql_of_isCleanRaw {condition : Option Condition}
    (h : ∀ filter ∈ condition, filter.IsCleanRaw) (ignoresEmpty : Bool) (phrase : Text) :
    Condition.clauseSql ignoresEmpty phrase condition =
      .ok ((condition.map Condition.rawText).elim [] (phrase ++ ·)) := by
  cases condition with
  | none => rfl
  | some filter =>
    obtain ⟨text, htext, rfl⟩ := h filter rfl
    have hspaced := htext.tidy.spaced
    have hsql : Condition.sql ignoresEmpty (.raw text) = .ok text := by
      rw [Condition.sql, hspaced.trim_eq]
      rfl
    have hfilled : text.isEmpty = false := by simpa using hspaced.filled
    rw [Condition.clauseSql_of_sql hsql, clauseText, hfilled]
    rfl

namespace StatementTexts

theorem rowBehind_optional {clause : Clause} {phrase : Text}
    (hphrase : ' ' :: Text.unwords clause.switchWords ++ [' '] = phrase) (body : Option Text) :
    rowBehind (optional clause body) = body.elim [] (phrase ++ ·) := by
  cases body with
  | none => rfl
  | some text =>
    rw [← hphrase]
    simp [rowBehind, optional, Segment.ofClause, Segment.text]

theorem rowBehind_append (left right : List Segment) :
    rowBehind (left ++ right) = rowBehind left ++ rowBehind right := by
  rw [rowBehind, rowBehind, rowBehind, List.map_append, List.flatMap_append]

private theorem rowBehind_joins (joins : List Join) :
    rowBehind (joins.map Segment.ofJoin) = joinsText (joins.map Join.text) := by
  have htexts : (joins.map Segment.ofJoin).map Segment.text = joins.map Join.text := by
    rw [List.map_map]
    exact List.map_congr_left fun join _ => Segment.text_ofJoin join
  rw [rowBehind, htexts, joinsText]

private theorem before_eq (texts : StatementTexts) : segmentsText texts.before =
    Phrase.select ++ texts.select ++ texts.into.elim [] (" INTO ".toList ++ ·) ++
      (Phrase.tables ++ texts.tables ++ joinsText (texts.joins.map Join.text)) := by
  have hinto := @rowBehind_optional .into " INTO ".toList rfl texts.into
  have hselect : (Segment.ofClause .select texts.select).text = Phrase.select ++ texts.select := rfl
  have htables : rowBehind (Segment.ofClause .tables texts.tables :: texts.joins.map Segment.ofJoin) =
      Phrase.tables ++ texts.tables ++ rowBehind (texts.joins.map Segment.ofJoin) := rfl
  rw [before, List.cons_append, segmentsText_cons, rowBehind_append, hselect, hinto, htables,
    rowBehind_joins]
  simp only [List.append_assoc]

private theorem after_eq (texts : StatementTexts) : rowBehind texts.after =
    texts.groups.elim [] (Phrase.groups ++ ·) ++ texts.having.elim [] (Phrase.having ++ ·) ++
      texts.sorts.elim [] (Phrase.sorts ++ ·) := by
  have hgroups := @rowBehind_optional .groups Phrase.groups rfl texts.groups
  have hhaving := @rowBehind_optional .having Phrase.having rfl texts.having
  have hsorts := @rowBehind_optional .sorts Phrase.sorts rfl texts.sorts
  rw [after, rowBehind_append, rowBehind_append, hgroups, hhaving, hsorts]

theorem text_eq (texts : StatementTexts) : texts.text =
    segmentsText texts.before ++ texts.filter.elim [] (Phrase.filter ++ ·) ++
      rowBehind texts.after := by
  have hfilter := @rowBehind_optional .filter Phrase.filter rfl texts.filter
  rw [text, segments_eq, segmentsText_append texts.before_ne_nil, rowBehind_append, hfilter,
    List.append_assoc]

end StatementTexts

namespace Query.HasPlainShape

variable {query : Query}

private theorem intoText_eq (h : query.HasPlainShape) :
    intoText query.into = query.into.elim [] (" INTO ".toList ++ ·) := by
  cases hinto : query.into with
  | none => rfl
  | some name =>
    obtain ⟨bare, hbare, rfl⟩ := h.into name hinto
    have hname := hbare.isEntry_tempName.clean.tidy.spaced
    have hdrop : bareTempName ('#' :: bare) = bare := by
      have hmark : '#' ∉ bare := hbare.notMem (by decide)
      rw [bareTempName, hname.trim_eq, Text.dropLeading,
        List.dropWhile_cons_of_pos (by decide)]
      exact dropLeading_of_notMem hmark
    have hfilled : bare.isEmpty = false := by simpa using hbare.filled
    rw [intoText, hdrop, clauseText, hfilled]
    rfl

/-- A query of plain parts with any filter is written from the texts of its clauses and what is
written for the filter, whether or not empty values are ignored. -/
theorem sql_withFilter (h : query.HasPlainShape)
    (hfields : ∀ field ∈ query.listedFields, field.IsWritten) {condition : Option Condition}
    {ignoresEmpty : Bool} {filter : Text}
    (hfilter : Condition.clauseSql ignoresEmpty Phrase.filter condition = .ok filter) :
    Query.sql true { query with filter := condition, ignoresEmpty } =
      .ok (segmentsText query.texts.before ++ filter ++ rowBehind query.texts.after) := by
  have hgroups : Field.sqls query.groups = .ok (query.groups.map Field.text) :=
    Field.sqls_eq fun field hfield =>
      (hfields field (mem_listedFields_of_groups hfield)).sql_eq (h.groups field hfield).2
  have hsorts : SortKey.sqls true query.sorts = .ok (query.sorts.map SortKey.text) :=
    SortKey.sqls_eq fun key hkey =>
      (hfields key.field (mem_listedFields_of_sorts hkey)).sql_eq (h.sorts key hkey).2
  have hhaving := Condition.clauseSql_of_isCleanRaw h.having ignoresEmpty Phrase.having
  have hlist (phrase : Text) (entries : List Text) :
      (if entries.isEmpty then [] else phrase ++ Text.joinWith Phrase.comma entries) =
        (listText? entries).elim [] (phrase ++ ·) := by
    cases entries <;> rfl
  have hgroupsText := hlist Phrase.groups (query.groups.map Field.text)
  have hsortsText := hlist Phrase.sorts (query.sorts.map SortKey.text)
  have hrequire : Query.requireComplete { query with filter := condition, ignoresEmpty } = .ok () :=
    h.requireComplete_eq
  have hprojection : Query.projectionSql { query with filter := condition, ignoresEmpty } =
      .ok query.selected := h.projectionSql_eq hfields
  have hsources : Query.sourcesSql { query with filter := condition, ignoresEmpty } =
      .ok (tablesText query.tables ++ joinsText (query.joins.map Join.text)) := h.sourcesSql_eq
  rw [Query.sql_eq, hrequire, hprojection, hsources, filterSql, hfilter, hgroups, hhaving,
    entriesIf, if_pos rfl, hsorts]
  refine congrArg Except.ok ?_
  rw [StatementTexts.before_eq, StatementTexts.after_eq, h.intoText_eq, groupsText, hgroupsText,
    sortsText, hsortsText, tablesText]
  simp only [texts, List.append_assoc]

theorem sql_eq (h : query.HasPlainShape)
    (hfields : ∀ field ∈ query.listedFields, field.IsWritten) :
    query.sql true = .ok query.texts.text := by
  have hfilter := Condition.clauseSql_of_isCleanRaw h.filter query.ignoresEmpty Phrase.filter
  have hsql := h.sql_withFilter hfields hfilter
  rw [StatementTexts.text_eq]
  cases query
  exact hsql

end Query.HasPlainShape

end SqlSelect
