import SqlSelect.Proofs.Query.JoinText

/-!
A statement as a row of segments: words that switch to a clause, and a clean text behind them. Main
statement: the clauses that are read from such a row are the texts of its segments.
-/

set_option autoImplicit false
set_option relaxedAutoImplicit false

namespace SqlSelect

def Clause.switchWords : Clause → List Text
  | .select => ["SELECT".toList]
  | .into => ["INTO".toList]
  | .tables => ["FROM".toList]
  | .joins => ["JOIN".toList]
  | .filter => ["WHERE".toList]
  | .groups => ["GROUP".toList, "BY".toList]
  | .having => ["HAVING".toList]
  | .sorts => ["ORDER".toList, "BY".toList]

/-- Words that switch to a clause, and what belongs to the clause. -/
structure Segment where
  clause : Clause
  switches : List Text
  body : Text

namespace Segment

def ofClause (clause : Clause) (body : Text) : Segment := ⟨clause, clause.switchWords, body⟩

def ofJoin (join : Join) : Segment := ⟨.joins, Text.words join.kind.sql, join.bodyText⟩

def text (segment : Segment) : Text := Text.unwords segment.switches ++ ' ' :: segment.body

def marked (segment : Segment) : List MarkedWord :=
  segment.switches.map (⟨·, segment.clause, true⟩) ++
    (Text.words segment.body).map (⟨·, segment.clause, false⟩)

def pieces (clause : Clause) (segment : Segment) : List Text :=
  (if clause = .joins then
    (segment.switches.filterMap JoinKind.ofSwitch?).map JoinKind.sql else []) ++
    if segment.clause = clause then Text.words segment.body else []

/-- A segment whose switches all switch to its clause, wherever it stands, and whose body switches
to none. -/
structure IsSound (segment : Segment) : Prop where
  switches : ∀ (current : Clause) (previous : Option Clause) (rest : List Text),
    markWords current previous 0 (segment.switches ++ rest) =
      segment.switches.map (⟨·, segment.clause, true⟩) ++
        markWords segment.clause (some segment.clause) 0 rest
  words : ∀ word ∈ segment.switches, word.IsWord
  written : (Text.unwords segment.switches).IsTidy
  body : segment.body.IsClean

theorem markWords_switchWords (clause current : Clause) (previous : Option Clause)
    (rest : List Text) : markWords current previous 0 (clause.switchWords ++ rest) =
      clause.switchWords.map (⟨·, clause, true⟩) ++ markWords clause (some clause) 0 rest := by
  cases clause <;> cases previous <;> rfl

theorem isSound_ofClause (clause : Clause) {body : Text} (h : body.IsClean) :
    (ofClause clause body).IsSound where
  switches := markWords_switchWords clause
  words := by
    have hwords : ∀ word ∈ clause.switchWords, word.IsWord := by cases clause <;> decide
    exact hwords
  written := by
    have hwritten : (Text.unwords clause.switchWords).IsTidy := by cases clause <;> decide
    exact hwritten
  body := h

private theorem isSound_ofJoin {join : Join} (h : join.IsPlain) : (ofJoin join).IsSound where
  switches current previous rest := by
    have hkind (kind : JoinKind) : markWords current previous 0 (Text.words kind.sql ++ rest) =
        (Text.words kind.sql).map (⟨·, .joins, true⟩) ++
          markWords .joins (some .joins) 0 rest := by
      cases kind <;> cases previous <;> rfl
    exact hkind join.kind
  words _ := Text.isWord_of_mem_words
  written := by
    have hwritten (kind : JoinKind) : (Text.unwords (Text.words kind.sql)).IsTidy := by
      cases kind <;> decide
    exact hwritten join.kind
  body := h.isClean_bodyText

theorem text_ofJoin (join : Join) : (ofJoin join).text = join.text := by
  have hkind : Text.unwords (Text.words join.kind.sql) = join.kind.sql :=
    (Join.IsPlain.isSpaced_kind join.kind).spaced
  rw [text, ofJoin, hkind]
  rfl

private theorem IsSound.isTidy_text {segment : Segment} (h : segment.IsSound) :
    segment.text.IsTidy :=
  h.written.append_space h.body.tidy

private theorem IsSound.words_text {segment : Segment} (h : segment.IsSound) :
    Text.words segment.text = segment.switches ++ Text.words segment.body := by
  rw [text, Text.words_append_space, Text.words_unwords h.words]

end Segment

theorem markWords_of_freeOf {start : Int} {pieces : List Text}
    (h : Text.freeOf isClauseWord start pieces = true) (hne : pieces ≠ []) (current : Clause)
    (previous : Option Clause) (rest : List Text) :
    markWords current previous start (pieces ++ rest) =
      pieces.map (⟨·, current, false⟩) ++
        markWords current none (start + Text.depth pieces.flatten) rest := by
  induction pieces generalizing start previous with
  | nil => exact absurd rfl hne
  | cons word pieces ih =>
    rw [Text.freeOf, Bool.and_eq_true] at h
    obtain ⟨hword, hpieces⟩ := h
    have hnone : (if start + Text.depth word = 0 then Clause.ofWord? previous word else none) =
        none := by
      split
      · next hdepth =>
        have hfree : isClauseWord word = false := by simpa [hdepth] using hword
        exact ofWord?_eq_none hfree previous
      · rfl
    have hmore : markWords current none (start + Text.depth word) (pieces ++ rest) =
        pieces.map (⟨·, current, false⟩) ++
          markWords current none (start + Text.depth word + Text.depth pieces.flatten) rest := by
      by_cases hempty : pieces = []
      · simp [hempty]
      · exact ih hpieces hempty none
    rw [List.cons_append, markWords, hnone, List.map_cons, List.flatten_cons, Text.depth_append,
      ← Int.add_assoc]
    exact congrArg _ hmore

theorem markWords_segment {segment : Segment} (h : segment.IsSound) (current : Clause)
    (previous : Option Clause) (rest : List Text) :
    markWords current previous 0 (Text.words segment.text ++ rest) =
      segment.marked ++ markWords segment.clause none 0 rest := by
  have hdepth : (0 : Int) + Text.depth (Text.words segment.body).flatten = 0 := by
    rw [Text.depth_flatten_words, h.body.tidy.nested.closed]
    rfl
  rw [h.words_text, List.append_assoc, h.switches, markWords_of_freeOf h.body.free
    h.body.tidy.spaced.words_ne_nil, hdepth, Segment.marked, List.append_assoc]

theorem markWords_segments {segments : List Segment} (h : ∀ segment ∈ segments, segment.IsSound)
    (current : Clause) (previous : Option Clause) :
    markWords current previous 0 (segments.flatMap fun segment => Text.words segment.text) =
      segments.flatMap Segment.marked := by
  induction segments generalizing current previous with
  | nil => rfl
  | cons segment rest ih =>
    obtain ⟨hsegment, hothers⟩ := List.forall_mem_cons.1 h
    rw [List.flatMap_cons, List.flatMap_cons, markWords_segment hsegment, ih hothers]

theorem markWords_segments_append {segments : List Segment}
    (h : ∀ segment ∈ segments, segment.IsSound) {last : Segment} (hlast : last.IsSound)
    (current : Clause) (previous : Option Clause) (rest : List Text) :
    markWords current previous 0
        ((segments ++ [last]).flatMap (fun segment => Text.words segment.text) ++ rest) =
      (segments ++ [last]).flatMap Segment.marked ++ markWords last.clause none 0 rest := by
  induction segments generalizing current previous with
  | nil =>
    rw [List.nil_append, List.flatMap_singleton, List.flatMap_singleton, markWords_segment hlast]
  | cons segment segments ih =>
    obtain ⟨hsegment, hothers⟩ := List.forall_mem_cons.1 h
    rw [List.cons_append, List.flatMap_cons, List.flatMap_cons, List.append_assoc,
      markWords_segment hsegment, ih hothers, List.append_assoc]

def segmentsText (segments : List Segment) : Text := Text.unwords (segments.map Segment.text)

def rowBehind (segments : List Segment) : Text := (segments.map Segment.text).flatMap (' ' :: ·)

theorem segmentsText_cons (segment : Segment) (rest : List Segment) :
    segmentsText (segment :: rest) = segment.text ++ rowBehind rest :=
  Text.unwords_eq_flatMap segment.text (rest.map Segment.text)

theorem segmentsText_append {segments : List Segment} (hne : segments ≠ []) (rest : List Segment) :
    segmentsText (segments ++ rest) = segmentsText segments ++ rowBehind rest := by
  obtain ⟨first, others, rfl⟩ := List.exists_cons_of_ne_nil hne
  rw [List.cons_append, segmentsText_cons, segmentsText_cons, rowBehind, rowBehind, rowBehind,
    List.map_append, List.flatMap_append, List.append_assoc]

theorem isTidy_segmentsText {segments : List Segment} (hne : segments ≠ [])
    (h : ∀ segment ∈ segments, segment.IsSound) : (segmentsText segments).IsTidy := by
  induction segments with
  | nil => exact absurd rfl hne
  | cons segment rest ih =>
    obtain ⟨hsegment, hothers⟩ := List.forall_mem_cons.1 h
    by_cases hrest : rest = []
    · simpa [hrest, segmentsText, Text.unwords] using hsegment.isTidy_text
    · have hmore := ih hrest hothers
      have hmap : rest.map Segment.text ≠ [] := by simpa using hrest
      rw [segmentsText, List.map_cons, Text.unwords_cons _ hmap]
      exact hsegment.isTidy_text.append_space hmore

theorem words_segmentsText (segments : List Segment) :
    Text.words (segmentsText segments) =
      segments.flatMap fun segment => Text.words segment.text := by
  rw [segmentsText, Text.words_unwords_flatten, List.map_map]
  rfl

theorem markedWords_segmentsText {segments : List Segment} (hne : segments ≠ [])
    (h : ∀ segment ∈ segments, segment.IsSound) :
    markedWords (segmentsText segments) = segments.flatMap Segment.marked := by
  rw [markedWords, (isTidy_segmentsText hne h).withoutComments_eq, words_segmentsText]
  exact markWords_segments h .select none

theorem clausePieces_append (clause : Clause) (left right : List MarkedWord) :
    clausePieces clause (left ++ right) = clausePieces clause left ++ clausePieces clause right :=
  List.flatMap_append

theorem clausePieces_own (clause owner : Clause) (pieces : List Text) :
    clausePieces clause (pieces.map (⟨·, owner, false⟩)) = if owner = clause then pieces else [] := by
  induction pieces with
  | nil => simp [clausePieces]
  | cons word rest ih =>
    rw [clausePieces] at ih
    rw [clausePieces, List.map_cons, List.flatMap_cons, ih, MarkedWord.remains, if_neg (by simp)]
    split <;> rfl

private theorem clausePieces_marked (clause : Clause) (segment : Segment) :
    clausePieces clause segment.marked = segment.pieces clause := by
  have hswitches (words : List Text) :
      clausePieces clause (words.map (⟨·, segment.clause, true⟩)) =
        if clause = .joins then (words.filterMap JoinKind.ofSwitch?).map JoinKind.sql else [] := by
    induction words with
    | nil => simp [clausePieces]
    | cons word rest ih =>
      rw [clausePieces] at ih
      rw [clausePieces, List.map_cons, List.flatMap_cons, ih, MarkedWord.remains, if_pos rfl]
      split
      · cases hkind : JoinKind.ofSwitch? word <;> simp [hkind]
      · rfl
  rw [Segment.marked, clausePieces_append, hswitches, clausePieces_own, Segment.pieces]

theorem clausePieces_segments (clause : Clause) (segments : List Segment) :
    clausePieces clause (segments.flatMap Segment.marked) =
      segments.flatMap (Segment.pieces clause) := by
  induction segments with
  | nil => rfl
  | cons segment rest ih =>
    rw [List.flatMap_cons, clausePieces_append, ih, clausePieces_marked, List.flatMap_cons]

theorem pieces_ofClause (clause owner : Clause) (body : Text) :
    (Segment.ofClause owner body).pieces clause =
      if owner = clause then Text.words body else [] := by
  have hkinds : owner.switchWords.filterMap JoinKind.ofSwitch? = [] := by cases owner <;> decide
  simp only [Segment.pieces, Segment.ofClause, hkinds, List.map_nil, ite_self, List.nil_append]
  rfl

private theorem pieces_ofJoin (clause : Clause) (join : Join) :
    (Segment.ofJoin join).pieces clause =
      if clause = .joins then join.kind.sql :: Text.words join.bodyText else [] := by
  have hkinds : (Text.words join.kind.sql).filterMap JoinKind.ofSwitch? = [join.kind] := by
    cases join.kind <;> decide
  simp only [Segment.pieces, Segment.ofJoin, hkinds]
  cases clause <;> rfl

/-- The texts that a statement is put together from. -/
structure StatementTexts where
  select : Text
  into : Option Text
  tables : Text
  joins : List Join
  filter : Option Text
  groups : Option Text
  having : Option Text
  sorts : Option Text

namespace StatementTexts

def optional (clause : Clause) (body : Option Text) : List Segment :=
  body.toList.map (Segment.ofClause clause)

def segments (texts : StatementTexts) : List Segment :=
  Segment.ofClause .select texts.select :: optional .into texts.into ++
    Segment.ofClause .tables texts.tables :: texts.joins.map Segment.ofJoin ++
    optional .filter texts.filter ++ optional .groups texts.groups ++
    optional .having texts.having ++ optional .sorts texts.sorts

def before (texts : StatementTexts) : List Segment :=
  Segment.ofClause .select texts.select :: optional .into texts.into ++
    Segment.ofClause .tables texts.tables :: texts.joins.map Segment.ofJoin

def after (texts : StatementTexts) : List Segment :=
  optional .groups texts.groups ++ optional .having texts.having ++ optional .sorts texts.sorts

theorem before_ne_nil (texts : StatementTexts) : texts.before ≠ [] := List.cons_ne_nil _ _

theorem segments_eq (texts : StatementTexts) :
    texts.segments = texts.before ++ (optional .filter texts.filter ++ texts.after) := by
  simp only [segments, before, after, List.cons_append, List.append_assoc]

/-- All texts are clean, and the joins are plain. -/
structure IsClean (texts : StatementTexts) : Prop where
  select : texts.select.IsClean
  into : ∀ body ∈ texts.into, body.IsClean
  tables : texts.tables.IsClean
  joins : ∀ join ∈ texts.joins, join.IsPlain
  filter : ∀ body ∈ texts.filter, body.IsClean
  groups : ∀ body ∈ texts.groups, body.IsClean
  having : ∀ body ∈ texts.having, body.IsClean
  sorts : ∀ body ∈ texts.sorts, body.IsClean

private theorem isSound_of_mem_optional {clause : Clause} {body : Option Text}
    (h : ∀ text ∈ body, text.IsClean) : ∀ segment ∈ optional clause body, segment.IsSound := by
  intro segment hsegment
  obtain ⟨text, htext, rfl⟩ := List.mem_map.1 hsegment
  exact Segment.isSound_ofClause clause (h text (Option.mem_toList.1 htext))

theorem IsClean.isSound {texts : StatementTexts} (h : texts.IsClean) :
    ∀ segment ∈ texts.segments, segment.IsSound := by
  have hinto := @isSound_of_mem_optional .into _ h.into
  have hfilter := @isSound_of_mem_optional .filter _ h.filter
  have hgroups := @isSound_of_mem_optional .groups _ h.groups
  have hhaving := @isSound_of_mem_optional .having _ h.having
  have hsorts := @isSound_of_mem_optional .sorts _ h.sorts
  have hjoins : ∀ segment ∈ texts.joins.map Segment.ofJoin, segment.IsSound := by
    intro segment hsegment
    obtain ⟨join, hjoin, rfl⟩ := List.mem_map.1 hsegment
    exact Segment.isSound_ofJoin (h.joins join hjoin)
  intro segment hsegment
  simp only [segments, List.cons_append, List.append_assoc, List.mem_cons, List.mem_append]
    at hsegment
  rcases hsegment with rfl | hin | rfl | hin | hin | hin | hin | hin
  · exact Segment.isSound_ofClause .select h.select
  · exact hinto segment hin
  · exact Segment.isSound_ofClause .tables h.tables
  · exact hjoins segment hin
  · exact hfilter segment hin
  · exact hgroups segment hin
  · exact hhaving segment hin
  · exact hsorts segment hin

theorem pieces_optional (clause owner : Clause) (body : Option Text) :
    (optional owner body).flatMap (Segment.pieces clause) =
      if owner = clause then body.toList.flatMap Text.words else [] := by
  cases body with
  | none => simp [optional]
  | some text => simp [optional, pieces_ofClause]

private theorem pieces_joins (clause : Clause) (joins : List Join) :
    (joins.map Segment.ofJoin).flatMap (Segment.pieces clause) =
      if clause = .joins then
        joins.flatMap fun join => join.kind.sql :: Text.words join.bodyText else [] := by
  induction joins with
  | nil => simp
  | cons join rest ih =>
    rw [List.map_cons, List.flatMap_cons, ih, pieces_ofJoin]
    split <;> rfl

private def clauseWords (texts : StatementTexts) : Clause → List Text
  | .select => Text.words texts.select
  | .into => texts.into.toList.flatMap Text.words
  | .tables => Text.words texts.tables
  | .joins => texts.joins.flatMap fun join => join.kind.sql :: Text.words join.bodyText
  | .filter => texts.filter.toList.flatMap Text.words
  | .groups => texts.groups.toList.flatMap Text.words
  | .having => texts.having.toList.flatMap Text.words
  | .sorts => texts.sorts.toList.flatMap Text.words

private theorem clausePieces_eq (texts : StatementTexts) (clause : Clause) :
    clausePieces clause (texts.segments.flatMap Segment.marked) = texts.clauseWords clause := by
  rw [clausePieces_segments, segments]
  simp only [List.flatMap_append, List.flatMap_cons, pieces_optional, pieces_ofClause, pieces_joins]
  cases clause <;> simp [clauseWords]

def text (texts : StatementTexts) : Text := segmentsText texts.segments

theorem segments_ne_nil (texts : StatementTexts) : texts.segments ≠ [] := by simp [segments]

theorem IsClean.isTidy_text {texts : StatementTexts} (h : texts.IsClean) : texts.text.IsTidy :=
  isTidy_segmentsText texts.segments_ne_nil h.isSound

private theorem unwords_optional {body : Option Text} (h : ∀ text ∈ body, text.IsClean) :
    Text.unwords (body.toList.flatMap Text.words) = body.getD [] := by
  cases body with
  | none => rfl
  | some text => simpa using (h text rfl).tidy.spaced.spaced

private theorem unwords_joins (joins : List Join) (h : ∀ join ∈ joins, join.IsPlain) :
    Text.unwords (joins.flatMap fun join => join.kind.sql :: Text.words join.bodyText) =
      Text.unwords (joins.map Join.text) := by
  induction joins with
  | nil => rfl
  | cons join rest ih =>
    obtain ⟨hjoin, hothers⟩ := List.forall_mem_cons.1 h
    have hbody := hjoin.isClean_bodyText.tidy.spaced
    have hmore := ih hothers
    have hfirst : Text.unwords (join.kind.sql :: Text.words join.bodyText) = join.text := by
      rw [Text.unwords_cons _ hbody.words_ne_nil, hbody.spaced]
      rfl
    rw [List.flatMap_cons, List.map_cons]
    by_cases hrest : rest = []
    · simpa [hrest, Text.unwords] using hfirst
    · have hmap : rest.map Join.text ≠ [] := by simpa using hrest
      have hflat : (rest.flatMap fun join => join.kind.sql :: Text.words join.bodyText) ≠ [] := by
        obtain ⟨other, others, rfl⟩ := List.exists_cons_of_ne_nil hrest
        simp
      rw [Text.unwords_append (by simp) hflat, hfirst, hmore, Text.unwords_cons _ hmap]

/-- The clauses of a statement are the texts it is put together from. -/
theorem IsClean.read_text {texts : StatementTexts} (h : texts.IsClean) {top : Option UInt32}
    {selected : List Text} (htop : takeTop (Text.words texts.select) = .ok (top, selected)) :
    ClauseTexts.read texts.text = .ok {
      top
      select := Text.unwords selected
      into := texts.into.getD []
      tables := texts.tables
      joins := Text.unwords (texts.joins.map Join.text)
      filter := texts.filter.getD []
      groups := texts.groups.getD []
      having := texts.having.getD []
      sorts := texts.sorts.getD [] } := by
  rw [ClauseTexts.read, text, markedWords_segmentsText texts.segments_ne_nil h.isSound,
    ClauseTexts.ofMarked]
  simp only [clausePieces_eq, clauseWords, htop, unwords_optional h.into, unwords_joins _ h.joins,
    unwords_optional h.filter, unwords_optional h.groups, unwords_optional h.having,
    unwords_optional h.sorts, h.tables.tidy.spaced.spaced]
  rfl

end StatementTexts

end SqlSelect
