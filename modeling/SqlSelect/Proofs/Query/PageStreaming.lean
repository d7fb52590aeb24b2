import SqlSelect.Query.PageStream
import SqlSelect.Proofs.Query.Streaming
import SqlSelect.Proofs.Query.PageParts

/-!
Counts and pages written piece by piece come to the texts that are put together from the parts, with
either flag of the sink. Main statement: whatever can be written is rendered as its text, and
otherwise the failure is what that text fails with.
-/

set_option autoImplicit false
set_option relaxedAutoImplicit false

namespace SqlSelect

open Writing

namespace Streams

variable {flag : Bool} {writing : Writing Unit} {result : Except SqlError Text}

private theorem check {α : Type} {checked : Except SqlError α} {rest : α → Writing Unit}
    {tail : α → Except SqlError Text} (hrest : ∀ a, Streams flag (rest a) (tail a)) :
    Streams flag (Writing.check checked >>= rest) (checked >>= tail) := by
  intro sink hsink
  rw [Writing.bind_apply]
  cases checked with
  | error cause => exact ⟨sink.written, rfl⟩
  | ok a => exact hrest a sink hsink

private theorem stops {next : Writing Unit} {cause : SqlError}
    (h : Streams flag writing (.error cause)) :
    Streams flag (do writing; next) (.error cause) := by
  intro sink hsink
  obtain ⟨written, hwritten⟩ := h sink hsink
  exact ⟨written, by rw [Writing.bind_apply, hwritten]⟩

theorem of_written (h : Streams flag writing result) {sink after : Sink}
    (hflag : sink.ignoresEmpty = flag) (hwritten : writing sink = (some (), after)) :
    ∃ text, result = .ok text ∧ after = { sink with written := sink.written ++ text } := by
  have hsink := h sink hflag
  rw [hwritten] at hsink
  cases result with
  | error cause =>
    obtain ⟨written, hfailed⟩ := hsink
    cases hfailed
  | ok text => exact ⟨text, rfl, (Prod.mk.inj hsink).2⟩

end Streams

namespace Query

variable (flag : Bool) (query : Query) (request : PageRequest) (field : Field)

theorem streams_projection : Streams flag query.writeProjection query.projectionSql :=
  Streams.projection query.selectsAll (Field.streams_eachSelected flag true query.fields)

theorem streams_sources : Streams flag query.writeSources query.sourcesSql := by
  have htables := (Streams.put Phrase.tables).append ((Streams.tables true query.tables).append
    (Streams.joins (Join.streams_each flag true query.joins)))
  refine htables.of_eq ?_
  simp only [sourcesSql, bind_assoc, pure_bind, tablesText, List.append_assoc]
  rfl

theorem streams_filter (ignoresEmpty : Bool) :
    Streams flag (query.writeFilter ignoresEmpty) (query.filterSql ignoresEmpty) :=
  Condition.streams_clause flag ignoresEmpty Phrase.filter query.filter

theorem streams_sorts (withTable : Bool) :
    Streams flag (query.writeSorts withTable) (query.sortsSql withTable) :=
  SortKey.streams_each flag withTable true query.sorts

private theorem streams_count (column : Text) :
    Streams flag (query.writeCount column) (query.countColumnSql column) := by
  rw [writeCount, countColumnSql]
  split
  · split
    · exact fun sink _ => ⟨sink.written, rfl⟩
    · refine ((Streams.put _).append ((query.streams_sources flag).append
        (query.streams_filter flag true))).of_eq ?_
      simp only [bind_assoc, pure_bind, List.append_assoc, List.cons_append]
  · refine ((Streams.put _).append ((Query.streams flag false query).append
      (Streams.put _))).of_eq ?_
    simp only [bind_assoc, pure_bind, List.append_assoc, List.cons_append]

variable {flag} in
private theorem streams_total {column : Writing Text} {result : Except SqlError Text}
    (hcolumn : ∀ {rest : Text → Writing Unit} {tail : Text → Except SqlError Text},
      (∀ text, Streams flag (rest text) (tail text)) →
        Streams flag (column >>= rest) (result >>= tail)) :
    Streams flag (query.writeTotal request column) (query.totalSql request result) := by
  rw [writeTotal, totalSql]
  split
  · exact hcolumn fun column => (Streams.put Phrase.also).append (query.streams_count flag column)
  · exact Streams.nothing

private theorem streams_rowTotal :
    Streams flag (query.writeTotal request (pure ['*'])) (query.totalSql request (.ok ['*'])) :=
  query.streams_total request fun hrest => hrest ['*']

private theorem streams_numbered : Streams flag query.writeNumbered query.numberedSql := by
  have hrows := (query.streams_projection flag).append ((query.streams_sources flag).append
    (query.streams_filter flag true))
  refine ((Streams.put Phrase.numbering).append ((query.streams_sorts flag true).append
    ((Streams.put Phrase.asRowNumber).append hrows))).of_eq ?_
  simp only [numberedSql, bind_assoc, pure_bind, List.append_assoc]

private theorem streams_windowPage :
    Streams flag (query.writeWindowPage request) (query.windowPageSql request) := by
  rw [writeWindowPage, windowPageSql]
  refine Streams.check fun offset => ?_
  refine ((Streams.put _).append ((query.streams_numbered flag).append ((Streams.put _).append
    (query.streams_rowTotal flag request)))).of_eq ?_
  simp only [bind_assoc, pure_bind, List.append_assoc, List.cons_append]

private theorem streams_temporaryPage :
    Streams flag (query.writeTemporaryPage request) (query.temporaryPageSql request) := by
  rw [writeTemporaryPage, temporaryPageSql]
  refine Streams.check fun offset => ?_
  have hrows := Query.streams flag true (query.withTemporary request)
  refine (hrows.append ((Streams.put _).append ((Streams.put Phrase.numbering).append
    ((query.streams_sorts flag false).append ((Streams.put _).append
      (query.streams_rowTotal flag request)))))).of_eq ?_
  simp only [bind_assoc, pure_bind, List.append_assoc, List.cons_append]

private theorem streams_page : Streams flag (query.writePage request) (query.pageSql request) := by
  rw [writePage, pageSql]
  split
  · exact query.streams_windowPage flag request
  · exact query.streams_temporaryPage flag request

private theorem streams_numberedGroups :
    Streams flag query.writeNumberedGroups query.numberedGroupsSql := by
  rw [writeNumberedGroups, numberedGroupsSql]
  split
  · exact query.streams_numbered flag
  · refine ((Streams.put Phrase.numbering).append ((query.streams_sorts flag false).append
      ((Streams.put _).append ((Query.streams flag false query).append (Streams.put _))))).of_eq ?_
    simp only [bind_assoc, pure_bind, List.append_assoc]

private theorem streams_columnWindow (offset : UInt64) {column : Text}
    (hcolumn : field.sql false = .ok column) :
    Streams flag (query.writeColumnWindow request offset field)
      (query.columnWindowSql request offset column) := by
  have hfield := Field.streams flag false field
  refine ((Streams.put _).append (hfield.append ((Streams.put _).append
    ((query.streams_numberedGroups flag).append ((Streams.put _).append hfield))))).of_eq ?_
  have hpure : field.sql false = pure column := hcolumn
  simp only [columnWindowSql, hpure, pure_bind, bind_assoc, List.append_assoc, List.cons_append,
    List.nil_append]

theorem streams_distinct :
    Streams flag (query.writeDistinct field) (query.distinctSql field) :=
  (Streams.put Phrase.distinct).append (Field.streams flag query.groups.isEmpty field)

private theorem streams_pageByColumn :
    Streams flag (query.writePageByColumn request field) (query.pageByColumnSql request field) := by
  -- the column is written in front of its window first: if writing it fails, it fails there
  rw [writePageByColumn, pageByColumnSql]
  refine Streams.check fun offset => ?_
  have hfield := Field.streams flag false field
  have hrows := Query.streams flag false query
  cases hcolumn : field.sql false with
  | error cause =>
    rw [hcolumn] at hfield
    refine ((Streams.put _).append (hrows.append ((Streams.put _).append hfield.stops))).of_eq ?_
    simp only [pure_bind, bind_assoc]
    rfl
  | ok column =>
    have htotal := query.streams_total request (query.streams_distinct flag field).capture
    have hsorts := (query.streams_sorts flag false).append htotal
    have hwindow := (query.streams_columnWindow flag request field offset hcolumn).append
      ((Streams.put (')' :: Phrase.sorts)).append hsorts)
    refine ((Streams.put _).append (hrows.append ((Streams.put _).append (hfield.append
      ((Streams.put _).append hwindow))))).of_eq ?_
    have hpure : field.sql false = pure column := hcolumn
    simp only [hpure, pure_bind, bind_assoc, List.append_assoc, List.cons_append]
    rfl

end Query

namespace Writable

theorem streams (flag : Bool) (written : Writable) :
    Streams flag written.write (written.sql flag) := by
  cases written with
  | field withTable column => exact Field.streams flag withTable column
  | selected column => exact (Field.streams flag true column).append (Streams.put _)
  | condition tested => exact Condition.streams flag tested
  | statement ordered query => exact Query.streams flag ordered query
  | count query column => exact query.streams_count flag column
  | page query request => exact query.streams_page flag request
  | pageByColumn query request column => exact query.streams_pageByColumn flag request column

/-- What is written is rendered as its text, and a failure is what that text fails with. -/
theorem render_eq (written : Writable) :
    Writing.render written.write = (written.sql false).mapError .lacking :=
  (written.streams false).render_eq

end Writable

end SqlSelect
