import SqlSelect.Proofs.Query.PlainShape

/-!
Queries that are read back from what they are written as. Main statement: a query whose parts are
plain, and whose nested queries are such queries again, is read back as it is.
-/

set_option autoImplicit false
set_option relaxedAutoImplicit false

namespace SqlSelect

def Query.nestedReader : Nat → Text → Option Query
  | 0, _ => none
  | levels + 1, inner => (Query.parseTo levels inner).toOption

theorem Query.parseTo_eq (levels : Nat) :
    Query.parseTo levels = Query.parseWith (Query.nestedReader levels) := by
  cases levels <;> rfl

/-- A query that can be written and is read back with enough levels. -/
structure Query.RoundTrips (query : Query) : Prop where
  sql : query.sql true = .ok query.written
  tidy : query.written.IsTidy
  complete : query.isComplete = true
  read : ∀ levels, query.written.count '(' ≤ levels →
    Query.parseTo levels query.written = .ok query

structure Field.RoundTrips (field : Field) : Prop where
  written : field.IsWritten
  read : ∀ levels, field.text.count '(' ≤ levels →
    field.ReadsBack (Query.nestedReader levels) field.text

namespace Field

variable {field : Field}

private theorem RoundTrips.isEntry (h : field.RoundTrips) : field.text.IsEntry :=
  (h.read _ (Nat.le_refl _)).entry

private theorem IsColumn.roundTrips (h : field.IsColumn) : field.RoundTrips := by
  have htext : field.text = field.columnText := by rw [text, h.nested]
  refine ⟨⟨_, sql_of_nested_eq_none h.nested, htext.symm⟩, fun levels _ => ?_⟩
  rw [htext]
  exact h.readsBack _

private theorem IsFunctionCall.roundTrips (h : field.IsFunctionCall) : field.RoundTrips := by
  have hnested : field.nested = none := by rw [h.bare]
  have htext : field.text = field.columnText := by rw [text, hnested]
  refine ⟨⟨_, sql_of_nested_eq_none hnested, htext.symm⟩, fun levels _ => ?_⟩
  rw [htext]
  exact h.readsBack _

private theorem IsSubQuery.roundTrips (h : field.IsSubQuery)
    (hnested : ∀ query, field.nested = some query → query.RoundTrips) : field.RoundTrips := by
  -- the parenthesis of the nested query pays for the level that reading it takes
  obtain ⟨query, hsome⟩ := Option.isSome_iff_exists.1 h.nested
  have hquery := hnested query hsome
  have hname := h.name
  have htext : field.text = nestedText field.name query.written := by rw [text, hsome]
  have hfield : field = { name := field.name, nested := some query } := by
    rw [← hsome]
    exact h.bare
  have hcount : (nestedText field.name query.written).count '(' =
      field.name.count '(' + 1 + query.written.count '(' := by
    have hopening : Phrase.nested.count '(' = 1 := by decide
    have hclosing : [')'].count '(' = 0 := by decide
    rw [nestedText, List.count_append, List.count_append, List.count_append, hopening, hclosing,
      Nat.add_zero]
  constructor
  · refine ⟨nestedText field.name query.written, ?_, ?_⟩
    · rw [hfield]
      exact sql_of_nested hquery.sql
    · rw [htext, hfield]
      exact List.append_nil _
  · intro levels hlevels
    rw [htext, hcount] at hlevels
    obtain ⟨more, rfl⟩ : ∃ more, levels = more + 1 := ⟨levels - 1, by omega⟩
    have hread : Query.nestedReader (more + 1) query.written = some query := by
      rw [Query.nestedReader, hquery.read more (by omega)]
      rfl
    have hback := readsBack_nested hname hquery.tidy hread hquery.complete
    rw [htext]
    rwa [← hfield] at hback

theorem IsSelectable.roundTrips (h : field.IsSelectable)
    (hnested : ∀ query, field.nested = some query → query.RoundTrips) : field.RoundTrips := by
  rcases h with hcolumn | hcall | hquery
  · exact hcolumn.roundTrips
  · exact hcall.roundTrips
  · exact hquery.roundTrips hnested

private theorem not_isSelectable_star : ¬IsSelectable { name := ['*'] } := by
  have hplain : ¬Text.IsPlainName ['*'] := by
    intro hname
    have hstar := hname.chars '*' List.mem_cons_self
    exact absurd hstar (by decide)
  rintro (hcolumn | hcall | hquery)
  · exact hplain hcolumn.name
  · obtain ⟨name, arguments, -, -, -, hspelled⟩ := hcall.call.spelled
    have hopening : '(' ∈ ['*'] := by
      rw [show ['*'] = name ++ '(' :: arguments ++ [')'] from hspelled]
      simp
    exact absurd hopening (by decide)
  · exact hplain hquery.name

end Field

namespace Text

private theorem sublist_joinWith {entry : Text} {entries : List Text} (h : entry ∈ entries)
    (separator : Text) : entry.Sublist (joinWith separator entries) := by
  induction entries with
  | nil => simp at h
  | cons first rest ih =>
    by_cases hrest : rest = []
    · subst hrest
      rw [List.mem_singleton.1 h, joinWith_singleton]
    · rw [joinWith_cons_of_ne_nil _ _ hrest]
      rcases List.mem_cons.1 h with rfl | hmem
      · exact (List.sublist_append_left _ _).trans (List.sublist_append_left _ _)
      · exact (ih hmem).trans (List.sublist_append_right _ _)

end Text

private theorem body_sublist_segmentsText {segment : Segment} {segments : List Segment}
    (h : segment ∈ segments) : segment.body.Sublist (segmentsText segments) := by
  have hbody : segment.body.Sublist segment.text :=
    (List.sublist_cons_self _ _).trans (List.sublist_append_right _ _)
  exact hbody.trans (Text.sublist_joinWith (List.mem_map_of_mem h) _)

private theorem listText?_of_mem {entry : Text} {entries : List Text} (h : entry ∈ entries) :
    listText? entries = some (Text.joinWith Phrase.comma entries) := by
  cases entries with
  | nil => simp at h
  | cons first rest => rfl

private theorem map_items_joinWith {α : Type} {write : α → Text} {read : Text → α}
    {entries : List α}
    (hentry : ∀ entry ∈ entries, (write entry).IsEntry)
    (hread : ∀ entry ∈ entries, read (write entry) = entry) :
    (Text.items (Text.joinWith Phrase.comma (entries.map write))).map read = entries := by
  by_cases hnone : entries = []
  · subst hnone
    rfl
  · have hlisted : ∀ text ∈ entries.map write, text.IsListed := by
      intro text htext
      obtain ⟨entry, hmem, rfl⟩ := List.mem_map.1 htext
      exact (hentry entry hmem).isListed
    have hitems := Text.items_joinWith (by simpa using hnone) hlisted
    have hback : entries.map (read ∘ write) = entries.map id := List.map_congr_left hread
    rw [Phrase.comma, hitems, List.map_map, hback, List.map_id]

private theorem Condition.ofText?_of_isCleanRaw {condition : Option Condition}
    (h : ∀ filter ∈ condition, filter.IsCleanRaw) :
    Condition.ofText? ((condition.map Condition.rawText).getD []) = condition := by
  cases condition with
  | none => rfl
  | some filter =>
    obtain ⟨text, htext, rfl⟩ := h filter rfl
    have hfilled : text.isEmpty = false := by simpa using htext.tidy.spaced.filled
    have hsome : (Option.map Condition.rawText (some (.raw text))).getD [] = text := rfl
    rw [hsome, Condition.ofText?, htext.tidy.spaced.trim_eq]
    simp only [hfilled, Bool.false_eq_true, if_false]

private theorem Condition.isClean_rawText {condition : Option Condition}
    (h : ∀ filter ∈ condition, filter.IsCleanRaw) :
    ∀ text ∈ condition.map Condition.rawText, text.IsClean := by
  intro text htext
  obtain ⟨filter, hfilter, rfl⟩ := Option.map_eq_some_iff.1 htext
  obtain ⟨text, hclean, rfl⟩ := h filter hfilter
  exact hclean

private theorem isClean_joinWith_map {α : Type} {write : α → Text} {entries : List α}
    (hne : entries ≠ []) (h : ∀ entry ∈ entries, (write entry).IsEntry) :
    Text.IsClean (Text.joinWith Phrase.comma (entries.map write)) := by
  refine Text.isClean_joinWith (by simpa using hne) fun text htext => ?_
  obtain ⟨entry, hentry, rfl⟩ := List.mem_map.1 htext
  exact h entry hentry

private theorem isClean_listText? {α : Type} {write : α → Text} {entries : List α}
    (h : ∀ entry ∈ entries, (write entry).IsEntry) :
    ∀ text ∈ listText? (entries.map write), text.IsClean := by
  intro text htext
  cases entries with
  | nil => simp [listText?] at htext
  | cons entry rest =>
    obtain rfl := Option.some.inj htext
    exact isClean_joinWith_map (by simp) h

namespace Query.HasPlainShape

variable {query : Query}

private theorem isClean_into (h : query.HasPlainShape) : ∀ name ∈ query.into, name.IsClean := by
  intro name hname
  obtain ⟨bare, hbare, rfl⟩ := h.into name hname
  exact hbare.isEntry_tempName.clean

private theorem isClean_selected (h : query.HasPlainShape)
    (hfields : ∀ field ∈ query.listedFields, field.RoundTrips) :
    query.selected.IsClean ∧ IsUnlimited query.selected := by
  rw [selected]
  rcases h.selection with ⟨hall, -⟩ | ⟨hall, hfilled⟩
  · rw [hall]
    have hstar : Text.IsClean ['*'] := by decide
    have hunlimited : IsUnlimited ['*'] := by
      unfold IsUnlimited
      decide
    exact ⟨hstar, hunlimited⟩
  · obtain ⟨first, rest, hsplit⟩ := List.exists_cons_of_ne_nil hfilled
    have hmember (field : Field) (hfield : field ∈ query.fields) : field.RoundTrips :=
      hfields field (mem_listedFields_of_fields hfield)
    have hfirst := hmember first (by rw [hsplit]; exact List.mem_cons_self)
    have hunlimited : IsUnlimited first.text := (hfirst.read _ (Nat.le_refl _)).begins
    rw [hall, if_neg (by decide)]
    refine ⟨isClean_joinWith_map hfilled fun field hfield => (hmember field hfield).isEntry, ?_⟩
    rw [hsplit, List.map_cons]
    exact isUnlimited_joinWith hfirst.isEntry hunlimited _

theorem isClean_texts (h : query.HasPlainShape)
    (hfields : ∀ field ∈ query.listedFields, field.RoundTrips) : query.texts.IsClean where
  select := isClean_topText (h.isClean_selected hfields).1 query.top
  into := h.isClean_into
  tables := isClean_joinWith_map h.filled fun table htable => (h.tables table htable).isEntry
  joins := h.joins
  filter := Condition.isClean_rawText h.filter
  groups := isClean_listText? fun field hfield =>
    (hfields field (mem_listedFields_of_groups hfield)).isEntry
  having := Condition.isClean_rawText h.having
  sorts := isClean_listText? fun key hkey =>
    have hback := (hfields key.field (mem_listedFields_of_sorts hkey)).read _ (Nat.le_refl _)
    (hback.sortKey key.direction).1

private theorem text_sublist (h : query.HasPlainShape) {field : Field}
    (hfield : field ∈ query.listedFields) : field.text.Sublist query.texts.text := by
  rw [listedFields, List.mem_append, List.mem_append] at hfield
  rcases hfield with (hfield | hfield) | hfield
  · have hall : query.selectsAll = false := by
      rcases h.selection with ⟨-, hnone⟩ | ⟨hall, -⟩
      · rw [hnone] at hfield
        simp at hfield
      · exact hall
    have hselect : Segment.ofClause .select query.texts.select ∈ query.texts.segments := by
      simp [StatementTexts.segments]
    have hselected : field.text.Sublist query.selected := by
      rw [selected, hall, if_neg (by decide)]
      exact Text.sublist_joinWith (List.mem_map_of_mem hfield) _
    exact (hselected.trans (List.sublist_append_right _ _)).trans
      (body_sublist_segmentsText hselect)
  · have hmem : field.text ∈ query.groups.map Field.text := List.mem_map_of_mem hfield
    have hgroups : Segment.ofClause .groups (Text.joinWith Phrase.comma
        (query.groups.map Field.text)) ∈ query.texts.segments := by
      simp [StatementTexts.segments, StatementTexts.optional, texts, listText?_of_mem hmem]
    exact (Text.sublist_joinWith hmem _).trans (body_sublist_segmentsText hgroups)
  · obtain ⟨key, hkey, rfl⟩ := List.mem_map.1 hfield
    have hmem : key.text ∈ query.sorts.map SortKey.text := List.mem_map_of_mem hkey
    have hkeyText : key.field.text.Sublist key.text := List.sublist_append_left _ _
    have hsorts : Segment.ofClause .sorts (Text.joinWith Phrase.comma
        (query.sorts.map SortKey.text)) ∈ query.texts.segments := by
      simp [StatementTexts.segments, StatementTexts.optional, texts, listText?_of_mem hmem]
    exact (hkeyText.trans (Text.sublist_joinWith hmem _)).trans (body_sublist_segmentsText hsorts)

private theorem parseProjectionWith_selected (h : query.HasPlainShape)
    {nested : Text → Option Query}
    (hclean : query.selected.IsClean)
    (hfields : ∀ field ∈ query.fields, field.ReadsBack nested field.text) :
    parseProjectionWith nested query.selected = (query.selectsAll, query.fields) := by
  rw [parseProjectionWith, hclean.tidy.spaced.trim_eq]
  rcases h.selection with ⟨hall, hnone⟩ | ⟨hall, hfilled⟩
  · have hstar : query.selected = ['*'] := by
      rw [selected, hall]
      rfl
    rw [if_pos hstar, hall, hnone]
  · have hselected : query.selected = Text.joinWith Phrase.comma (query.fields.map Field.text) := by
      rw [selected, hall, if_neg (by decide)]
    have hread : Field.parseListWith nested query.selected = query.fields := by
      rw [hselected, Field.parseListWith]
      exact map_items_joinWith (fun field hfield => (hfields field hfield).entry)
        fun field hfield => (hfields field hfield).read
    have hother : query.selected ≠ ['*'] := by
      intro hstar
      rw [hstar] at hread
      have hstarred : Field.parseListWith nested ['*'] = [{ name := ['*'] }] := rfl
      refine Field.not_isSelectable_star (h.fields _ ?_)
      rw [← hread, hstarred]
      exact List.mem_singleton_self _
    rw [if_neg hother, hall, hread]

private theorem ofClausesWith_eq (h : query.HasPlainShape) {nested : Text → Option Query}
    (hclean : query.selected.IsClean)
    (hfields : ∀ field ∈ query.listedFields, field.ReadsBack nested field.text) :
    ofClausesWith nested {
      top := query.top
      select := query.selected
      into := query.into.getD []
      tables := Text.joinWith Phrase.comma (query.tables.map TableRef.sql)
      joins := Text.unwords (query.joins.map Join.text)
      filter := (query.filter.map Condition.rawText).getD []
      groups := Text.joinWith Phrase.comma (query.groups.map Field.text)
      having := (query.having.map Condition.rawText).getD []
      sorts := Text.joinWith Phrase.comma (query.sorts.map SortKey.text) } = .ok query := by
  have hprojection := h.parseProjectionWith_selected hclean fun field hfield =>
    hfields field (mem_listedFields_of_fields hfield)
  have hinto : (if (Text.trim (query.into.getD [])).isEmpty then none
      else some (Text.trim (query.into.getD []))) = query.into := by
    cases hname : query.into with
    | none => rfl
    | some name =>
      have hspaced := (h.isClean_into name hname).tidy.spaced
      have hfilled : name.isEmpty = false := by simpa using hspaced.filled
      rw [Option.getD_some, hspaced.trim_eq, hfilled]
      rfl
  have htables : TableRef.parseList (Text.joinWith Phrase.comma (query.tables.map TableRef.sql)) =
      query.tables :=
    map_items_joinWith (fun table htable => (h.tables table htable).isEntry)
      fun table htable => (h.tables table htable).parse_sql
  have hgroup (field : Field) (hfield : field ∈ query.groups) : field.ReadsBack nested field.text :=
    hfields field (mem_listedFields_of_groups hfield)
  have hgroups : Field.parseListWith nested (Text.joinWith Phrase.comma
      (query.groups.map Field.text)) = query.groups :=
    map_items_joinWith (fun field hfield => (hgroup field hfield).entry)
      fun field hfield => (hgroup field hfield).read
  have hsort (key : SortKey) (hkey : key ∈ query.sorts) :
      key.text.IsEntry ∧ SortKey.parseWith nested key.text = key := by
    have hback := (hfields key.field (mem_listedFields_of_sorts hkey)).sortKey key.direction
    cases key
    exact hback
  have hsorts : SortKey.parseListWith nested (Text.joinWith Phrase.comma
      (query.sorts.map SortKey.text)) = query.sorts :=
    map_items_joinWith (fun key hkey => (hsort key hkey).1) fun key hkey => (hsort key hkey).2
  have hignores := h.ignoresEmpty
  rw [ofClausesWith]
  simp only [hprojection, Join.parseListWith_eq h.joins, hinto, htables, hgroups, hsorts,
    Condition.ofText?_of_isCleanRaw h.filter, Condition.ofText?_of_isCleanRaw h.having]
  cases query
  obtain rfl : _ = false := hignores
  rfl

private theorem roundTrips (h : query.HasPlainShape)
    (hfields : ∀ field ∈ query.listedFields, field.RoundTrips) : query.RoundTrips := by
  have hsql := h.sql_eq fun field hfield => (hfields field hfield).written
  have hwritten : query.written = query.texts.text := by
    rw [written, hsql]
    rfl
  have hclean := h.isClean_texts hfields
  obtain ⟨hselected, hunlimited⟩ := h.isClean_selected hfields
  have htop := takeTop_words h.top hselected.tidy.spaced hunlimited
  have hclauses := hclean.read_text htop
  refine ⟨by rw [hwritten, hsql], by rw [hwritten]; exact hclean.isTidy_text, h.isComplete, ?_⟩
  intro levels hlevels
  rw [hwritten] at hlevels ⊢
  have hread : ∀ field ∈ query.listedFields,
      field.ReadsBack (nestedReader levels) field.text := by
    intro field hfield
    have hcount := (h.text_sublist hfield).count_le '('
    exact (hfields field hfield).read levels (by omega)
  have hquery := h.ofClausesWith_eq hselected hread
  rw [parseTo_eq, parseWith, hclauses]
  rw [hselected.tidy.spaced.spaced]
  have hgroups : query.texts.groups.getD [] = _ := getD_listText? _
  have hsorts : query.texts.sorts.getD [] = _ := getD_listText? _
  rw [hgroups, hsorts]
  exact hquery

end Query.HasPlainShape

/-- A query of plain parts whose nested queries are such queries again. -/
inductive Query.IsPlain : Query → Prop
  | intro {query : Query} (shape : query.HasPlainShape)
      (nested : ∀ field ∈ query.listedFields, ∀ inner, field.nested = some inner → inner.IsPlain) :
      query.IsPlain

namespace Query.IsPlain

variable {query : Query}

theorem roundTrips (h : query.IsPlain) : query.RoundTrips := by
  induction h with
  | intro shape nested ih =>
    exact shape.roundTrips fun field hfield =>
      (shape.isSelectable hfield).roundTrips fun inner hinner => ih field hfield inner hinner

/-- What is written for a plain query is read back as the query. -/
theorem sql_parses_back (h : query.IsPlain) :
    ∃ text, query.sql true = .ok text ∧ Query.parse text = .ok query := by
  have hquery := h.roundTrips
  exact ⟨query.written, hquery.sql, hquery.read _ (Nat.le_refl _)⟩

/-- A statement with every clause and a query nested in what it selects. -/
theorem sql_parses_back_of_nested_report :
    let latest : Query := {
      fields := [{ name := "MAX(id, (1))".toList }]
      tables := [⟨"orders".toList, none⟩] }
    let report : Query := {
      fields := [{ name := "id".toList, table := some ['u'], aliasName := some "uid".toList },
        { name := "latest".toList, nested := some latest }]
      into := some "#report".toList
      tables := [⟨"users".toList, some ['u']⟩, ⟨['t'], none⟩]
      joins := [{ kind := .leftOuter, table := ⟨"orders".toList, some ['o']⟩
                  localField := { name := "id".toList, table := some ['u'] }
                  foreignField := { name := "LOWER(o.user)".toList } }]
      filter := some (.raw "u.age > 3 OR u.name IN (SELECT name FROM t)".toList)
      groups := [{ name := "id".toList, table := some ['u'] }]
      having := some (.raw "COUNT(*) > 1".toList)
      sorts := [⟨{ name := "id".toList }, .descending⟩]
      top := some 5 }
    report.IsPlain ∧ ∃ text, report.sql true = .ok text ∧ Query.parse text = .ok report := by
  intro latest report
  have hcall {text name arguments : Text} (hclean : text.IsClean) (hname : name.IsPlainName)
      (harguments : arguments.IsNested) (hspelled : text = name ++ '(' :: arguments ++ [')']) :
      Field.IsFunctionCall { name := text } :=
    ⟨⟨hclean, name, arguments, hname.filled, hname.chars, harguments, hspelled⟩, rfl⟩
  have hmax : Field.IsFunctionCall { name := "MAX(id, (1))".toList } :=
    hcall (by decide) (show Text.IsPlainName "MAX".toList by decide)
      (show Text.IsNested "id, (1)".toList by decide) rfl
  have hlower : Field.IsFunctionCall { name := "LOWER(o.user)".toList } :=
    hcall (by decide) (show Text.IsPlainName "LOWER".toList by decide)
      (show Text.IsNested "o.user".toList by decide) rfl
  have hid : Field.IsColumn { name := "id".toList, table := some ['u'] } :=
    ⟨by decide, by decide, by decide, rfl⟩
  have huid : Field.IsColumn
      { name := "id".toList, table := some ['u'], aliasName := some "uid".toList } :=
    ⟨by decide, by decide, by decide, rfl⟩
  have hsort : Field.IsColumn { name := "id".toList } := ⟨by decide, by decide, by decide, rfl⟩
  have hnested : Field.IsSubQuery { name := "latest".toList, nested := some latest } :=
    ⟨by decide, rfl, rfl⟩
  have hlatest : latest.IsPlain := by
    refine ⟨?_, by simp [listedFields, latest]⟩
    exact {
      selection := .inr ⟨rfl, by simp [latest]⟩
      fields := List.forall_mem_singleton.2 (.inr (.inl hmax))
      into := by simp [latest]
      filled := by simp [latest]
      tables := List.forall_mem_singleton.2 ⟨by decide, by decide⟩
      joins := by simp [latest]
      filter := by simp [latest]
      groups := by simp [latest]
      having := by simp [latest]
      sorts := by simp [latest]
      top := by simp [latest]
      ignoresEmpty := rfl }
  have hreport : report.IsPlain := by
    refine ⟨?_, by simpa [listedFields, report] using hlatest⟩
    exact {
      selection := .inr ⟨rfl, by simp [report]⟩
      fields := List.forall_mem_cons.2
        ⟨.inl huid, List.forall_mem_singleton.2 (.inr (.inr hnested))⟩
      into := fun _ hname => ⟨"report".toList, by decide, (Option.some.inj hname).symm⟩
      filled := by simp [report]
      tables := List.forall_mem_cons.2
        ⟨⟨by decide, by decide⟩, List.forall_mem_singleton.2 ⟨by decide, by decide⟩⟩
      joins := List.forall_mem_singleton.2
        ⟨⟨by decide, by decide⟩, .inl ⟨hid, rfl⟩, .inr hlower⟩
      filter := fun _ hfilter => ⟨_, by decide, (Option.some.inj hfilter).symm⟩
      groups := List.forall_mem_singleton.2 ⟨.inl hid, rfl⟩
      having := fun _ hhaving => ⟨_, by decide, (Option.some.inj hhaving).symm⟩
      sorts := List.forall_mem_singleton.2 ⟨.inl hsort, rfl⟩
      top := by simp [report]
      ignoresEmpty := rfl }
  exact ⟨hreport, hreport.sql_parses_back⟩

end Query.IsPlain

end SqlSelect
