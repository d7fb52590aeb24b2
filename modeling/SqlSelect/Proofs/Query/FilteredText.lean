import SqlSelect.Proofs.Query.RoundTrip
import SqlSelect.Proofs.Query.Switches
import SqlSelect.Proofs.Text.Comments
import SqlSelect.Query.Edit

/-!
A query that compares a column with a text, written and read back. A statement is read without
regard to its literals, so comments, keywords and parentheses count inside of them too. Main
statement: every clause but the filter comes back if no word of the literal goes to another clause
and the literal is closed where it ends.
-/

set_option autoImplicit false
set_option relaxedAutoImplicit false

namespace SqlSelect

namespace Text

/-- The words of a literal that are seen in a statement. -/
def literalWords (value : Text) : List Text := words (withoutComments (quoted value))

def literalMarks (value : Text) : List MarkedWord := markWords .filter none 0 (literalWords value)

/-- No word of the literal goes to another clause. -/
def StaysInFilter (value : Text) : Prop :=
  ∀ clause ∈ Clause.all, clause ≠ .filter → clausePieces clause (literalMarks value) = []

/-- No comment begins on the last line of the literal, and its parentheses are closed at its end. -/
structure ClosesLiteral (value : Text) : Prop where
  uncommented : (lastLine (quoted value)).IsUncommented
  closed : depth (withoutComments (quoted value)) = 0

instance (value : Text) : Decidable value.StaysInFilter :=
  inferInstanceAs (Decidable (∀ clause ∈ Clause.all, clause ≠ .filter →
    clausePieces clause (literalMarks value) = []))

instance (value : Text) : Decidable value.ClosesLiteral :=
  decidable_of_iff ((lastLine (quoted value)).IsUncommented ∧
      depth (withoutComments (quoted value)) = 0)
    ⟨fun h => ⟨h.1, h.2⟩, fun h => ⟨h.uncommented, h.closed⟩⟩

end Text

/-- A row of segments with a literal behind it, and a row behind that. -/
private def literalStatement (front : List Segment) (value : Text) (back : List Segment) : Text :=
  segmentsText front ++ ' ' :: Text.quoted value ++ rowBehind back

section Rows

private theorem rowBehind_of_ne_nil {segments : List Segment} (hne : segments ≠ []) :
    rowBehind segments = ' ' :: segmentsText segments := by
  obtain ⟨first, rest, rfl⟩ := List.exists_cons_of_ne_nil hne
  rw [segmentsText_cons]
  rfl

private theorem words_append_rowBehind (text : Text) (segments : List Segment) :
    Text.words (text ++ rowBehind segments) =
      Text.words text ++ segments.flatMap fun segment => Text.words segment.text := by
  by_cases hnone : segments = []
  · subst hnone
    simp [rowBehind]
  · rw [rowBehind_of_ne_nil hnone, Text.words_append_space, words_segmentsText]

private theorem isUncommented_rowBehind {segments : List Segment}
    (h : ∀ segment ∈ segments, segment.IsSound) :
    (rowBehind segments).IsUncommented ∧ '\n' ∉ rowBehind segments := by
  by_cases hnone : segments = []
  · subst hnone
    exact ⟨.nil, List.not_mem_nil⟩
  · have htidy := isTidy_segmentsText hnone h
    have hspace : Text.IsUncommented [' '] := .singleton ' '
    rw [rowBehind_of_ne_nil hnone]
    refine ⟨hspace.append_of_last htidy.uncommented (by decide), ?_⟩
    rw [List.mem_cons, not_or]
    exact ⟨by decide, htidy.notMem_lineFeed⟩

private theorem depth_of_mem_row {segments : List Segment} (hopening : '(' ∉ rowBehind segments)
    (hclosing : ')' ∉ rowBehind segments) :
    ∀ word ∈ segments.flatMap (fun segment => Text.words segment.text), Text.depth word = 0 := by
  intro word hword
  have hrow (c : Char) (hc : c ∈ word) : c ∈ rowBehind segments := by
    have hwords := words_append_rowBehind [] segments
    rw [Text.words_nil, List.nil_append, List.nil_append] at hwords
    exact Text.mem_of_mem_words (hwords ▸ hword) hc
  exact Text.depth_eq_zero_of_notMem (fun hc => hopening (hrow _ hc)) fun hc => hclosing (hrow _ hc)

private theorem markWords_of_depth_ne_zero {start : Int} (hstart : start ≠ 0) {pieces : List Text}
    (h : ∀ word ∈ pieces, Text.depth word = 0) (current : Clause) (previous : Option Clause) :
    markWords current previous start pieces = pieces.map (⟨·, current, false⟩) := by
  induction pieces generalizing previous with
  | nil => rfl
  | cons word rest ih =>
    obtain ⟨hword, hrest⟩ := List.forall_mem_cons.1 h
    have hstays : start + Text.depth word = start := by rw [hword, Int.add_zero]
    rw [markWords_own fun hclosed => absurd (hstays ▸ hclosed) hstart, hstays, ih hrest,
      List.map_cons]

end Rows

section Literal

variable {value : Text}

private theorem literalWords_eq_concat (h : (Text.lastLine (Text.quoted value)).IsUncommented) :
    ∃ front last, Text.literalWords value = front ++ [last ++ ['\'']] := by
  -- the word of the closing quote is seen, unless a comment takes it
  have hline := Text.lastLine_append (show '\n' ∉ ['\''] by decide)
    ('\'' :: Text.doubleQuotes value)
  obtain ⟨before, hbefore⟩ := Text.lastLine_suffix_withoutComments h
  have hsplit : Text.withoutComments (Text.quoted value) =
      before ++ Text.lastLine ('\'' :: Text.doubleQuotes value) ++ ['\''] := by
    rw [← hbefore, Text.quoted, hline, List.append_assoc]
  obtain ⟨front, last, hwords, -⟩ := Text.words_append_word_eq (show Text.IsWord ['\''] by decide)
    (before ++ Text.lastLine ('\'' :: Text.doubleQuotes value))
  exact ⟨front, last, by rw [Text.literalWords, hsplit, hwords]⟩

/-- The filter is in force behind a literal that stays in it: the word with the closing quote is no
keyword, so it belongs to the clause that is in force there. -/
private theorem markWords_literal (hvalue : value.StaysInFilter)
    (hopen : (Text.lastLine (Text.quoted value)).IsUncommented) (rest : List Text) :
    markWords .filter none 0 (Text.literalWords value ++ rest) = Text.literalMarks value ++
      markWords .filter none (Text.depth (Text.withoutComments (Text.quoted value))) rest := by
  obtain ⟨front, last, hwords⟩ := literalWords_eq_concat hopen
  obtain ⟨clause, switch, hfront⟩ := exists_markWords_append front .filter none 0
  have hquote : isClauseWord (last ++ ['\'']) = false :=
    isClauseWord_of_mem (c := '\'') (by simp) (by decide)
  have hlast (others : List Text) : markWords clause switch (0 + Text.depth front.flatten)
      ((last ++ ['\'']) :: others) = ⟨last ++ ['\''], clause, false⟩ ::
        markWords clause none (0 + Text.depth front.flatten + Text.depth (last ++ ['\''])) others :=
    markWords_own (fun _ => ofWord?_eq_none hquote switch) others
  have hmarks : Text.literalMarks value =
      markWords .filter none 0 front ++ [⟨last ++ ['\''], clause, false⟩] := by
    rw [Text.literalMarks, hwords, hfront, hlast]
    rfl
  have hclause : clause = .filter := by
    by_contra hother
    have hnone := hvalue clause (by cases clause <;> decide) hother
    have hown := clausePieces_own clause clause [last ++ ['\'']]
    rw [if_pos rfl, List.map_singleton] at hown
    rw [hmarks, clausePieces_append, hown] at hnone
    simp at hnone
  have hdepth : Text.depth (Text.withoutComments (Text.quoted value)) =
      0 + Text.depth front.flatten + Text.depth (last ++ ['\'']) := by
    have hflatten := Text.depth_flatten_words (Text.withoutComments (Text.quoted value))
    rw [← Text.literalWords, hwords, List.flatten_append, List.flatten_singleton,
      Text.depth_append] at hflatten
    omega
  rw [hwords, List.append_assoc, hfront, List.singleton_append, hlast, hmarks, hdepth, hclause,
    List.append_assoc]
  rfl

private theorem Text.staysInFilter_of_freeOf
    (h : Text.freeOf isClauseWord 0 (Text.literalWords value) = true) : value.StaysInFilter := by
  intro clause _ hclause
  by_cases hnone : Text.literalWords value = []
  · rw [Text.literalMarks, hnone]
    rfl
  · have hmarks := markWords_of_freeOf h hnone .filter none []
    rw [List.append_nil, markWords, List.append_nil] at hmarks
    rw [Text.literalMarks, hmarks, clausePieces_own, if_neg (Ne.symm hclause)]

end Literal

section Statement

variable {before back : List Segment} {lead : Segment} {value : Text}

private theorem words_literalStatement {front : List Segment} (hne : front ≠ [])
    (hfront : ∀ segment ∈ front, segment.IsSound) (hback : ∀ segment ∈ back, segment.IsSound) :
    Text.words (Text.withoutComments (literalStatement front value back)) =
      front.flatMap (fun segment => Text.words segment.text) ++ (Text.literalWords value ++
        if (Text.lastLine (Text.quoted value)).IsUncommented then
          back.flatMap fun segment => Text.words segment.text else []) := by
  have htidy := isTidy_segmentsText hne hfront
  have hspaced : Text.IsUncommented (segmentsText front ++ [' ']) :=
    htidy.uncommented.append_of_head (.singleton ' ') (by decide)
  have hline : '\n' ∉ segmentsText front ++ [' '] := by
    rw [List.mem_append, not_or]
    exact ⟨htidy.notMem_lineFeed, by decide⟩
  have hquote : (Text.quoted value).getLast? ≠ some '-' := by
    rw [Text.quoted, List.getLast?_concat]
    decide
  obtain ⟨hrow, hrowLine⟩ := isUncommented_rowBehind hback
  have hsplit : literalStatement front value back =
      (segmentsText front ++ [' ']) ++ (Text.quoted value ++ rowBehind back) := by
    simp [literalStatement]
  rw [hsplit, Text.withoutComments_append_left hspaced (by simp) hline,
    Text.withoutComments_append_right hquote hrow hrowLine, List.append_assoc,
    List.singleton_append, Text.words_append_space, words_segmentsText]
  split
  · rw [words_append_rowBehind, Text.literalWords]
  · rw [List.append_nil, List.append_nil, Text.literalWords]

private def tailMarks (value : Text) (back : List Segment) : List MarkedWord :=
  if (Text.lastLine (Text.quoted value)).IsUncommented then
    markWords .filter none (Text.depth (Text.withoutComments (Text.quoted value)))
      (back.flatMap fun segment => Text.words segment.text)
  else []

private theorem markedWords_literalStatement (hbefore : ∀ segment ∈ before, segment.IsSound)
    (hlead : lead.IsSound) (hfilter : lead.clause = .filter)
    (hback : ∀ segment ∈ back, segment.IsSound) (hvalue : value.StaysInFilter) :
    markedWords (literalStatement (before ++ [lead]) value back) =
      (before ++ [lead]).flatMap Segment.marked ++ (Text.literalMarks value ++
        tailMarks value back) := by
  have hfront : ∀ segment ∈ before ++ [lead], segment.IsSound := by
    intro segment hsegment
    rcases List.mem_append.1 hsegment with hsegment | hsegment
    · exact hbefore segment hsegment
    · rwa [List.mem_singleton.1 hsegment]
  rw [markedWords, words_literalStatement (by simp) hfront hback,
    markWords_segments_append hbefore hlead, hfilter, tailMarks]
  split
  · next hopen => rw [markWords_literal hvalue hopen]
  · rw [List.append_nil, List.append_nil, Text.literalMarks]

private theorem clausePieces_tailMarks (value : Text) (hback : ∀ segment ∈ back, segment.IsSound) :
    (value.ClosesLiteral → ∀ clause, clausePieces clause (tailMarks value back) =
      back.flatMap (Segment.pieces clause)) ∧
    (¬value.ClosesLiteral → '(' ∉ rowBehind back → ')' ∉ rowBehind back →
      ∀ clause, clause ≠ .filter → clausePieces clause (tailMarks value back) = []) := by
  constructor
  · intro hclosed clause
    rw [tailMarks, if_pos hclosed.uncommented, hclosed.closed, markWords_segments hback,
      clausePieces_segments]
  · intro hunclosed hopening hclosing clause hclause
    rw [tailMarks]
    split
    · next hopen =>
      have hdepth : Text.depth (Text.withoutComments (Text.quoted value)) ≠ 0 :=
        fun hdepth => hunclosed ⟨hopen, hdepth⟩
      rw [markWords_of_depth_ne_zero hdepth (depth_of_mem_row hopening hclosing), clausePieces_own,
        if_neg (Ne.symm hclause)]
    · rfl

end Statement

section Reading

private theorem ClauseTexts.text_withFilter {clause : Clause} (h : clause ≠ .filter)
    (texts : ClauseTexts)
    (filter : Text) : ClauseTexts.text { texts with filter } clause = texts.text clause := by
  cases clause with
  | filter => exact absurd rfl h
  | _ => rfl

private theorem Query.ofClausesWith_withFilter {nested : Text → Option Query} {texts : ClauseTexts}
    {query : Query} (h : Query.ofClausesWith nested texts = .ok query) (filter : Text) :
    Query.ofClausesWith nested { texts with filter } =
      .ok { query with filter := Condition.ofText? filter } := by
  obtain ⟨joins, hjoins, hquery⟩ := bind_eq_ok.1 h
  rw [← pure_eq_ok.1 hquery]
  exact bind_eq_ok.2 ⟨joins, hjoins, rfl⟩

private theorem Query.RoundTrips.parse_eq {query : Query} (h : query.RoundTrips) {statement : Text}
    (hclauses : ∀ clause, clause ≠ .filter → clausePieces clause (markedWords statement) =
      clausePieces clause (markedWords query.written))
    (hlevels : query.written.count '(' ≤ statement.count '(') :
    Query.parse statement = .ok { query with
      filter := Condition.ofText? (Text.unwords (clausePieces .filter (markedWords statement))) } := by
  have hread := h.read _ hlevels
  rw [Query.parseTo_eq] at hread
  obtain ⟨texts, htexts, hquery⟩ := bind_eq_ok.1 hread
  obtain ⟨⟨rest, htop, hselect⟩, hothers⟩ := ClauseTexts.ofMarked_eq_ok_iff.1 htexts
  have hstatement : ClauseTexts.read statement = .ok { texts with
      filter := Text.unwords (clausePieces .filter (markedWords statement)) } := by
    refine ClauseTexts.ofMarked_eq_ok_iff.2 ⟨⟨rest, ?_, hselect⟩, fun clause hclause => ?_⟩
    · rw [hclauses .select nofun]
      exact htop
    · by_cases hfilter : clause = .filter
      · subst hfilter
        rfl
      · rw [ClauseTexts.text_withFilter hfilter, hothers clause hclause, hclauses clause hfilter]
  rw [Query.parse, Query.parseTo_eq]
  exact bind_eq_ok.2 ⟨_, hstatement, Query.ofClausesWith_withFilter hquery _⟩

end Reading

namespace Query

private def comparingSegment (field : Field) : Segment :=
  Segment.ofClause .filter (qualifiedName true field.table field.name ++ ' ' :: ['='])

/-- No parenthesis stands behind the filter. -/
private def EndsFlat (query : Query) : Prop :=
  '(' ∉ rowBehind query.texts.after ∧ ')' ∉ rowBehind query.texts.after

private def withoutTail (query : Query) : Query :=
  { query with groups := [], having := none, sorts := [] }

private theorem before_withoutTail (query : Query) :
    query.withoutTail.texts.before = query.texts.before := rfl

private theorem filter_texts {query : Query} (hfilter : query.filter = none) :
    query.texts.filter = none :=
  congrArg (Option.map Condition.rawText) hfilter

private theorem segments_texts {query : Query} (hfilter : query.filter = none) :
    query.texts.segments = query.texts.before ++ query.texts.after := by
  rw [StatementTexts.segments_eq, filter_texts hfilter]
  rfl

private theorem isSound_comparingSegment {field : Field} (h : field.IsColumn) :
    (comparingSegment field).IsSound := by
  have hequals : Text.IsEntry ['='] :=
    Text.isEntry_of_word (by decide) (by decide) (by decide)
  exact Segment.isSound_ofClause .filter
    ((Field.isEntry_qualifiedName h.name h.table).append_space hequals).clean

private theorem clauseSql_comparison {field : Field} (h : field.IsColumn) {ignoresEmpty : Bool}
    {value : Text} (hspoken : (ignoresEmpty && !hasContent (some value)) = false) :
    Condition.clauseSql ignoresEmpty Phrase.filter
        (some (.comparison (.ofValue field .equal (.text value)))) =
      .ok (rowBehind [comparingSegment field] ++ ' ' :: Text.quoted value) := by
  have htest : Comparison.ofValue field .equal (.text value) =
      ⟨field, some .equal, some value, true, false⟩ := rfl
  have htail : comparisonTail (some .equal) (some value) true false =
      ' ' :: ['='] ++ ' ' :: Text.quoted value := by
    rw [comparisonTail, Bool.not_true, Bool.and_false]
    rfl
  have hsql : Condition.sql ignoresEmpty (.comparison (.ofValue field .equal (.text value))) =
      .ok (qualifiedName true field.table field.name ++ (' ' :: ['='] ++ ' ' :: Text.quoted value)) := by
    rw [htest, Condition.sql, Comparison.sql, hspoken, if_neg (by decide),
      Field.sql_of_nested_eq_none h.nested, htail]
    rfl
  have hrow : rowBehind [comparingSegment field] =
      Phrase.filter ++ (qualifiedName true field.table field.name ++ ' ' :: ['=']) :=
    @StatementTexts.rowBehind_optional .filter Phrase.filter rfl (some _)
  rw [Condition.clauseSql_of_sql hsql, clauseText, if_neg (by simp), hrow, List.append_assoc,
    List.append_assoc]

private theorem clauseSql_comparison_of_silent (field : Field) {ignoresEmpty : Bool} {value : Text}
    (hsilent : (ignoresEmpty && !hasContent (some value)) = true) :
    Condition.clauseSql ignoresEmpty Phrase.filter
      (some (.comparison (.ofValue field .equal (.text value)))) = .ok [] := by
  have htest : Comparison.ofValue field .equal (.text value) =
      ⟨field, some .equal, some value, true, false⟩ := rfl
  have hsql : Condition.sql ignoresEmpty (.comparison (.ofValue field .equal (.text value))) =
      .ok [] := by
    rw [htest, Condition.sql, Comparison.sql, if_pos hsilent]
    rfl
  exact Condition.clauseSql_of_sql hsql

section Pieces

variable {before back : List Segment} {field : Field} {value : Text}

private theorem clausePieces_literalStatement (hbefore : ∀ segment ∈ before, segment.IsSound)
    (hback : ∀ segment ∈ back, segment.IsSound) (hfield : field.IsColumn)
    (hvalue : value.StaysInFilter) {clause : Clause} (hclause : clause ≠ .filter) :
    clausePieces clause
        (markedWords (literalStatement (before ++ [comparingSegment field]) value back)) =
      before.flatMap (Segment.pieces clause) ++ clausePieces clause (tailMarks value back) := by
  have hlead : (comparingSegment field).pieces clause = [] := by
    rw [comparingSegment, pieces_ofClause, if_neg (Ne.symm hclause)]
  have hliteral := hvalue clause (by cases clause <;> decide) hclause
  rw [markedWords_literalStatement hbefore (isSound_comparingSegment hfield) rfl hback hvalue,
    clausePieces_append, clausePieces_append, clausePieces_segments, List.flatMap_append,
    List.flatMap_singleton, hlead, hliteral, List.append_nil, List.nil_append]

end Pieces

private theorem HasPlainShape.withoutTail {query : Query} (h : query.HasPlainShape) :
    query.withoutTail.HasPlainShape where
  selection := h.selection
  fields := h.fields
  into := h.into
  filled := h.filled
  tables := h.tables
  joins := h.joins
  filter := h.filter
  groups := List.forall_mem_nil _
  having := nofun
  sorts := List.forall_mem_nil _
  top := h.top
  ignoresEmpty := h.ignoresEmpty

namespace IsPlain

variable {query : Query}

private theorem shape (h : query.IsPlain) : query.HasPlainShape := by
  obtain ⟨shape, -⟩ := h
  exact shape

private theorem fieldsRoundTrip (h : query.IsPlain) :
    ∀ field ∈ query.listedFields, field.RoundTrips := by
  obtain ⟨shape, nested⟩ := h
  exact fun field hfield => (shape.isSelectable hfield).roundTrips fun inner hinner =>
    (nested field hfield inner hinner).roundTrips

private theorem withoutTail (h : query.IsPlain) : query.withoutTail.IsPlain := by
  obtain ⟨shape, nested⟩ := h
  refine ⟨shape.withoutTail, fun field hfield => nested field ?_⟩
  have hfields : field ∈ query.fields := by simpa [listedFields, Query.withoutTail] using hfield
  exact mem_listedFields_of_fields hfields

private theorem isSound_segments (h : query.IsPlain) (hfilter : query.filter = none) :
    (∀ segment ∈ query.texts.before, segment.IsSound) ∧
      ∀ segment ∈ query.texts.after, segment.IsSound := by
  have hsound := (h.shape.isClean_texts h.fieldsRoundTrip).isSound
  rw [segments_texts hfilter] at hsound
  exact ⟨fun segment hsegment => hsound segment (List.mem_append_left _ hsegment),
    fun segment hsegment => hsound segment (List.mem_append_right _ hsegment)⟩

private theorem written_eq (h : query.IsPlain) : query.written = query.texts.text := by
  rw [written, h.shape.sql_eq fun field hfield => (h.fieldsRoundTrip field hfield).written]
  rfl

private theorem clausePieces_written (h : query.IsPlain) (hfilter : query.filter = none)
    (clause : Clause) : clausePieces clause (markedWords query.written) =
      query.texts.before.flatMap (Segment.pieces clause) ++
        query.texts.after.flatMap (Segment.pieces clause) := by
  rw [h.written_eq, StatementTexts.text, markedWords_segmentsText query.texts.segments_ne_nil
    (h.shape.isClean_texts h.fieldsRoundTrip).isSound, clausePieces_segments, segments_texts hfilter,
    List.flatMap_append]

section Written

variable {ignoresEmpty : Bool} {field : Field} {value : Text}

private theorem sql_whereValue (h : query.IsPlain) (hfilter : query.filter = none)
    (hfield : field.IsColumn)
    (hspoken : (ignoresEmpty && !hasContent (some value)) = false) :
    ((query.ignoringEmpty ignoresEmpty).whereValue .equal field (.text value)).sql true =
      .ok (literalStatement (query.texts.before ++ [comparingSegment field]) value
        query.texts.after) := by
  have hsql := h.shape.sql_withFilter (fun field hfield => (h.fieldsRoundTrip field hfield).written)
    (clauseSql_comparison hfield hspoken)
  rw [whereValue, andFilter, addFilter, ignoringEmpty, hfilter]
  refine hsql.trans (congrArg Except.ok ?_)
  rw [literalStatement, segmentsText_append query.texts.before_ne_nil]
  simp only [List.append_assoc]

private theorem sql_whereValue_of_silent (h : query.IsPlain) (hfilter : query.filter = none)
    (hsilent : (ignoresEmpty && !hasContent (some value)) = true) :
    ((query.ignoringEmpty ignoresEmpty).whereValue .equal field (.text value)).sql true =
      .ok query.written := by
  have hsql := h.shape.sql_withFilter (fun field hfield => (h.fieldsRoundTrip field hfield).written)
    (clauseSql_comparison_of_silent field hsilent)
  rw [whereValue, andFilter, addFilter, ignoringEmpty, hfilter, h.written_eq,
    StatementTexts.text_eq, filter_texts hfilter]
  exact hsql

end Written

private theorem count_written_le (h : query.IsPlain) (hfilter : query.filter = none) (field : Field)
    (value : Text) {back : List Segment} (hback : query.texts.after <:+ back) :
    query.written.count '(' ≤ (literalStatement (query.texts.before ++ [comparingSegment field])
      value back).count '(' := by
  obtain ⟨front, rfl⟩ := hback
  rw [h.written_eq, StatementTexts.text_eq, filter_texts hfilter, literalStatement,
    segmentsText_append query.texts.before_ne_nil, StatementTexts.rowBehind_append]
  simp only [Option.elim_none, List.count_append, List.count_nil]
  omega

/-- A statement whose literal stays in the filter is read as the query with another filter, if the
query has the clauses that are left of the row behind the literal. -/
private theorem parse_literalStatement (h : query.IsPlain) (hfilter : query.filter = none)
    {field : Field}
    (hfield : field.IsColumn) {value : Text} (hvalue : value.StaysInFilter) {back : List Segment}
    (hback : ∀ segment ∈ back, segment.IsSound) (hsuffix : query.texts.after <:+ back)
    (htail : ∀ clause, clause ≠ .filter → clausePieces clause (tailMarks value back) =
      query.texts.after.flatMap (Segment.pieces clause)) :
    let statement := literalStatement (query.texts.before ++ [comparingSegment field]) value back
    Query.parse statement = .ok { query with
      filter := Condition.ofText? (Text.unwords (clausePieces .filter (markedWords statement))) } := by
  intro statement
  have hbefore := (h.isSound_segments hfilter).1
  have hwritten := h.clausePieces_written hfilter
  refine h.roundTrips.parse_eq (fun clause hclause => ?_)
    (h.count_written_le hfilter field value hsuffix)
  rw [clausePieces_literalStatement hbefore hback hfield hvalue hclause, htail clause hclause,
    hwritten]

private theorem parse_of_not_closesLiteral (h : query.IsPlain) (hfilter : query.filter = none)
    (hflat : query.EndsFlat) (ignoresEmpty : Bool) {field : Field} (hfield : field.IsColumn)
    {value : Text} (hvalue : value.StaysInFilter) (hunclosed : ¬value.ClosesLiteral) :
    ∃ text, ((query.ignoringEmpty ignoresEmpty).whereValue .equal field (.text value)).sql true =
        .ok text ∧
      Query.parse text = .ok { query.withoutTail with
        filter := Condition.ofText? (Text.unwords (clausePieces .filter (markedWords text))) } := by
  have hspoken : (ignoresEmpty && !hasContent (some value)) = false := by
    cases value with
    | nil => exact absurd (by decide) hunclosed
    | cons c rest => simp [hasContent]
  have hafter := (h.isSound_segments hfilter).2
  have hlost := (clausePieces_tailMarks value hafter).2 hunclosed hflat.1 hflat.2
  have hsuffix : query.withoutTail.texts.after <:+ query.texts.after := List.nil_suffix
  have hparse := h.withoutTail.parse_literalStatement hfilter hfield hvalue hafter hsuffix hlost
  rw [before_withoutTail] at hparse
  exact ⟨_, h.sql_whereValue hfilter hfield hspoken, hparse⟩

/-- A plain query that compares a column with a text can be written and is read back as it is, but
for the filter, which is read as the words left to it. No word of the literal may go to another
clause, and the literal is closed where it ends unless no clause stands behind it. -/
theorem whereValue_parses_back (h : query.IsPlain) (hfilter : query.filter = none)
    (ignoresEmpty : Bool) {field : Field} (hfield : field.IsColumn) {value : Text}
    (hvalue : value.StaysInFilter)
    (hclosed : value.ClosesLiteral ∨
      query.groups = [] ∧ query.having = none ∧ query.sorts = []) :
    ∃ text, ((query.ignoringEmpty ignoresEmpty).whereValue .equal field (.text value)).sql true =
        .ok text ∧
      Query.parse text = .ok { query with
        filter := Condition.ofText? (Text.unwords (clausePieces .filter (markedWords text))) } := by
  by_cases hcloses : value.ClosesLiteral
  · have hafter := (h.isSound_segments hfilter).2
    have hkept := (clausePieces_tailMarks value hafter).1 hcloses
    cases hspoken : ignoresEmpty && !hasContent (some value) with
    | false =>
      exact ⟨_, h.sql_whereValue hfilter hfield hspoken,
        h.parse_literalStatement hfilter hfield hvalue hafter (List.suffix_refl _)
          fun clause _ => hkept clause⟩
    | true =>
      exact ⟨_, h.sql_whereValue_of_silent hfilter hspoken,
        h.roundTrips.parse_eq (fun _ _ => rfl) (Nat.le_refl _)⟩
  · obtain ⟨hgroups, hhaving, hsorts⟩ := hclosed.resolve_left hcloses
    have hsame : query.withoutTail = query := by
      cases query
      simp_all [Query.withoutTail]
    have hflat : query.EndsFlat := by
      rw [← hsame]
      exact ⟨List.not_mem_nil, List.not_mem_nil⟩
    have hlost := h.parse_of_not_closesLiteral hfilter hflat ignoresEmpty hfield hvalue hcloses
    rwa [hsame] at hlost

end IsPlain

def orderedRows : Query :=
  { selectsAll := true, tables := [⟨['t'], none⟩], sorts := [⟨{ name := ['a'] }, .ascending⟩] }

private theorem isPlain_orderedRows : orderedRows.IsPlain := by
  have hkey : Field.IsColumn { name := ['a'] } := ⟨by decide, by decide, by decide, rfl⟩
  refine ⟨?_, by simp [listedFields, orderedRows]⟩
  exact {
    selection := .inl ⟨rfl, rfl⟩
    fields := List.forall_mem_nil _
    into := by rintro _ ⟨⟩
    filled := List.cons_ne_nil _ _
    tables := List.forall_mem_singleton.2 ⟨by decide, by decide⟩
    joins := List.forall_mem_nil _
    filter := by rintro _ ⟨⟩
    groups := List.forall_mem_nil _
    having := by rintro _ ⟨⟩
    sorts := List.forall_mem_singleton.2 ⟨.inl hkey, rfl⟩
    top := by rintro ⟨⟩
    ignoresEmpty := rfl }

/-- A quote, a keyword in parentheses and a comment on a line of its own leave the order alone. -/
theorem IsPlain.whereValue_parses_back_of_hostile_text :
    let field : Field := { name := ['b'] }
    let value : Text := "it's ( from c ) -- d\ne".toList
    field.IsColumn ∧ value.StaysInFilter ∧ value.ClosesLiteral ∧
      ∃ text, ((orderedRows.ignoringEmpty true).whereValue .equal field (.text value)).sql true =
          .ok text ∧
        Query.parse text = .ok { orderedRows with
          filter := Condition.ofText? (Text.unwords (clausePieces .filter (markedWords text))) } := by
  intro field value
  have hfield : field.IsColumn := ⟨by decide, by decide, by decide, rfl⟩
  have hvalue : value.StaysInFilter := Text.staysInFilter_of_freeOf (by decide)
  have hclosed : value.ClosesLiteral := by decide
  exact ⟨hfield, hvalue, hclosed,
    isPlain_orderedRows.whereValue_parses_back rfl true hfield hvalue (.inl hclosed)⟩

/-- A keyword in a text changes the tables, and a comment or a parenthesis in it takes the order
away. -/
theorem IsPlain.whereValue_parses_back_not_of_keyword :
    let field : Field := { name := ['b'] }
    orderedRows.IsPlain ∧ orderedRows.filter = none ∧ orderedRows.having = none ∧ field.IsColumn ∧
      ∀ value ∈ ["x from y".toList, "x--y".toList, "(x".toList],
        ¬∃ text reparsed, (orderedRows.whereValue .equal field (.text value)).sql true = .ok text ∧
          Query.parse text = .ok reparsed ∧ { reparsed with filter := none } = orderedRows := by
  intro field
  have hfield : field.IsColumn := ⟨by decide, by decide, by decide, rfl⟩
  have hdiffers {value text : Text} {reparsed : Query}
      (hsql : (orderedRows.whereValue .equal field (.text value)).sql true = .ok text)
      (hparse : Query.parse text = .ok reparsed)
      (hother : { reparsed with filter := none } ≠ orderedRows) :
      ¬∃ text reparsed, (orderedRows.whereValue .equal field (.text value)).sql true = .ok text ∧
        Query.parse text = .ok reparsed ∧ { reparsed with filter := none } = orderedRows := by
    rintro ⟨written, query, hwritten, hquery, hsame⟩
    obtain rfl := Except.ok.inj (hsql.symm.trans hwritten)
    obtain rfl := Except.ok.inj (hparse.symm.trans hquery)
    exact hother hsame
  have hkeyword : Query.parse "SELECT * FROM t WHERE b = 'x from y' ORDER BY a ASC".toList = .ok {
      orderedRows with
      tables := [⟨['t'], some "y'".toList⟩]
      filter := some (.raw "b = 'x".toList) } := rfl
  have hlost {value : Text} (hvalue : value.StaysInFilter) (hunclosed : ¬value.ClosesLiteral) :
      ¬∃ text reparsed, (orderedRows.whereValue .equal field (.text value)).sql true = .ok text ∧
        Query.parse text = .ok reparsed ∧ { reparsed with filter := none } = orderedRows := by
    have hflat : orderedRows.EndsFlat := by
      constructor <;> decide
    obtain ⟨text, hsql, hparse⟩ :=
      isPlain_orderedRows.parse_of_not_closesLiteral rfl hflat false hfield hvalue hunclosed
    exact hdiffers hsql hparse fun hsame => by
      simpa [orderedRows, Query.withoutTail] using congrArg Query.sorts hsame
  refine ⟨isPlain_orderedRows, rfl, rfl, hfield, ?_⟩
  simp only [List.forall_mem_cons, List.not_mem_nil, false_imp_iff, implies_true, and_true]
  refine ⟨hdiffers rfl hkeyword fun hsame => ?_, hlost (by decide) (by decide),
    hlost (by decide) (by decide)⟩
  exact absurd (congrArg Query.tables hsame) (by simp [orderedRows])

end Query

end SqlSelect
