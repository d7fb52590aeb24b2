import SqlSelect.Proofs.Query.PlainShape
import SqlSelect.Proofs.Query.Termination

/-!
Queries that are put together from the texts of their clauses. Main statement: reading the statement
that is made of these texts gives the same query, whatever lists and filters they hold.
-/

set_option autoImplicit false
set_option relaxedAutoImplicit false

namespace SqlSelect

/-- What may be given for a clause: nothing, or a clean text. -/
def Text.IsClauseText (text : Text) : Prop := text = [] ∨ text.IsClean

instance (text : Text) : Decidable text.IsClauseText :=
  inferInstanceAs (Decidable (text = [] ∨ text.IsClean))

namespace Text.IsClauseText

variable {text : Text}

private theorem unwords_words (h : text.IsClauseText) : unwords (words text) = text := by
  rcases h with rfl | h
  · rw [words_nil]
    rfl
  · exact h.tidy.spaced.spaced

private theorem isUncommented (h : text.IsClauseText) : text.IsUncommented := by
  rcases h with rfl | h
  · exact .nil
  · exact h.tidy.uncommented

private theorem notMem_lineFeed (h : text.IsClauseText) : '\n' ∉ text := by
  rcases h with rfl | h
  · exact List.not_mem_nil
  · exact h.tidy.notMem_lineFeed

end Text.IsClauseText

/-- The statement of a projection, tables, a filter and an order. A clause without a text has no
phrase either, but for the first two. -/
def assembledText (select tables filter sorts : Text) : Text :=
  Phrase.select ++ select ++ (Phrase.tables ++ tables) ++ clauseText Phrase.filter filter ++
    clauseText Phrase.sorts sorts

namespace Segment

private def IsGiven (segment : Segment) : Prop :=
  ∃ (clause : Clause) (body : Text), segment = ofClause clause body ∧ body.IsClauseText

namespace IsGiven

variable {segment : Segment}

private theorem isUncommented (h : segment.IsGiven) : segment.text.IsUncommented := by
  obtain ⟨clause, body, rfl, hbody⟩ := h
  have hswitches : Text.IsUncommented (Text.unwords clause.switchWords ++ [' ']) ∧
      (Text.unwords clause.switchWords ++ [' ']).getLast? ≠ some '-' := by
    cases clause <;> decide
  have hwhole := hswitches.1.append_of_last hbody.isUncommented hswitches.2
  rwa [List.append_assoc] at hwhole

private theorem notMem_lineFeed (h : segment.IsGiven) : '\n' ∉ segment.text := by
  obtain ⟨clause, body, rfl, hbody⟩ := h
  have hswitches : '\n' ∉ Text.unwords clause.switchWords ++ [' '] := by cases clause <;> decide
  have hwhole : '\n' ∉ Text.unwords clause.switchWords ++ [' '] ++ body := fun hmem =>
    (List.mem_append.1 hmem).elim hswitches hbody.notMem_lineFeed
  rwa [List.append_assoc] at hwhole

private theorem exists_markWords_eq (h : segment.IsGiven) (current : Clause)
    (previous : Option Clause)
    (rest : List Text) : ∃ following,
      markWords current previous 0 (Text.words segment.text ++ rest) =
        segment.marked ++ markWords segment.clause following 0 rest := by
  obtain ⟨clause, body, rfl, rfl | hbody⟩ := h
  · have hwords : ∀ word ∈ clause.switchWords, word.IsWord := by cases clause <;> decide
    have htext : Text.words (ofClause clause []).text = clause.switchWords := by
      show Text.words (Text.unwords clause.switchWords ++ ' ' :: []) = _
      rw [Text.words_append_space, Text.words_nil, List.append_nil, Text.words_unwords hwords]
    have hmarked : (ofClause clause []).marked = clause.switchWords.map (⟨·, clause, true⟩) := by
      rw [marked, ofClause, Text.words_nil, List.map_nil, List.append_nil]
    exact ⟨some clause, by rw [htext, hmarked, markWords_switchWords]; rfl⟩
  · exact ⟨none, markWords_segment (isSound_ofClause clause hbody) current previous rest⟩

end IsGiven

end Segment

private theorem markWords_given {segments : List Segment}
    (h : ∀ segment ∈ segments, segment.IsGiven)
    (current : Clause) (previous : Option Clause) :
    markWords current previous 0 (segments.flatMap fun segment => Text.words segment.text) =
      segments.flatMap Segment.marked := by
  induction segments generalizing current previous with
  | nil => rfl
  | cons segment rest ih =>
    obtain ⟨hsegment, hothers⟩ := List.forall_mem_cons.1 h
    obtain ⟨following, hmarks⟩ := hsegment.exists_markWords_eq current previous
      (rest.flatMap fun other => Text.words other.text)
    rw [List.flatMap_cons, List.flatMap_cons, hmarks, ih hothers]

private theorem withoutComments_segmentsText {segments : List Segment}
    (h : ∀ segment ∈ segments, segment.IsGiven) :
    Text.withoutComments (segmentsText segments) = segmentsText segments := by
  have hclean : (segmentsText segments).IsUncommented ∧ '\n' ∉ segmentsText segments := by
    induction segments with
    | nil => exact ⟨.nil, List.not_mem_nil⟩
    | cons segment rest ih =>
      obtain ⟨hsegment, hothers⟩ := List.forall_mem_cons.1 h
      obtain ⟨hrest, hline⟩ := ih hothers
      by_cases hempty : rest = []
      · rw [hempty]
        simpa [segmentsText, Text.unwords] using
          And.intro hsegment.isUncommented hsegment.notMem_lineFeed
      · have hmap : rest.map Segment.text ≠ [] := by simpa using hempty
        have hspace : Text.IsUncommented [' '] := .singleton ' '
        have hback := hspace.append_of_last hrest (by decide)
        rw [segmentsText, List.map_cons, Text.unwords_cons _ hmap]
        refine ⟨hsegment.isUncommented.append_of_head hback (by simp), fun hmem => ?_⟩
        rcases List.mem_append.1 hmem with hmem | hmem
        · exact hsegment.notMem_lineFeed hmem
        · exact hline ((List.mem_cons.1 hmem).resolve_left (by decide))
  exact Text.IsUncommented.withoutComments_eq hclean.1 hclean.2

private theorem markedWords_given {segments : List Segment}
    (h : ∀ segment ∈ segments, segment.IsGiven) :
    markedWords (segmentsText segments) = segments.flatMap Segment.marked := by
  rw [markedWords, withoutComments_segmentsText h, words_segmentsText]
  exact markWords_given h .select none

private def givenText? (text : Text) : Option Text := if text.isEmpty then none else some text

private theorem flatMap_words_givenText? (text : Text) :
    (givenText? text).toList.flatMap Text.words = Text.words text := by
  cases text with
  | nil => simp [givenText?, Text.words_nil]
  | cons c rest => simp [givenText?]

private def assembledSegments (select tables filter sorts : Text) : List Segment :=
  [Segment.ofClause .select select, Segment.ofClause .tables tables] ++
    StatementTexts.optional .filter (givenText? filter) ++
    StatementTexts.optional .sorts (givenText? sorts)

section Assembled

variable {select tables filter sorts : Text}

private theorem segmentsText_assembled :
    segmentsText (assembledSegments select tables filter sorts) =
      assembledText select tables filter sorts := by
  have hgiven (phrase text : Text) :
      (givenText? text).elim [] (phrase ++ ·) = clauseText phrase text := by
    cases text <;> rfl
  have hfilter := @StatementTexts.rowBehind_optional .filter Phrase.filter rfl (givenText? filter)
  have hsorts := @StatementTexts.rowBehind_optional .sorts Phrase.sorts rfl (givenText? sorts)
  have hselect : (Segment.ofClause .select select).text = Phrase.select ++ select := rfl
  have htables : rowBehind [Segment.ofClause .tables tables] = Phrase.tables ++ tables :=
    List.append_nil _
  rw [assembledSegments, List.append_assoc, List.cons_append, segmentsText_cons, hselect,
    StatementTexts.rowBehind_append, htables, StatementTexts.rowBehind_append, hfilter, hsorts,
    hgiven, hgiven, assembledText]
  simp only [List.append_assoc]

private theorem isGiven_assembled (hselect : select.IsClauseText) (htables : tables.IsClauseText)
    (hfilter : filter.IsClauseText) (hsorts : sorts.IsClauseText) :
    ∀ segment ∈ assembledSegments select tables filter sorts, segment.IsGiven := by
  have hoptional {clause : Clause} {text : Text} (htext : text.IsClauseText) :
      ∀ segment ∈ StatementTexts.optional clause (givenText? text), segment.IsGiven := by
    intro segment hsegment
    obtain ⟨body, hbody, rfl⟩ := List.mem_map.1 hsegment
    have hsame : body = text := by
      rw [Option.mem_toList, givenText?] at hbody
      split at hbody
      · cases hbody
      · exact (Option.some.inj hbody).symm
    exact ⟨clause, body, rfl, hsame ▸ htext⟩
  intro segment hsegment
  rw [assembledSegments, List.mem_append, List.mem_append, List.mem_pair] at hsegment
  rcases hsegment with ((rfl | rfl) | hin) | hin
  · exact ⟨.select, select, rfl, hselect⟩
  · exact ⟨.tables, tables, rfl, htables⟩
  · exact hoptional hfilter segment hin
  · exact hoptional hsorts segment hin

private theorem clausePieces_assembled (hselect : select.IsClauseText)
    (htables : tables.IsClauseText)
    (hfilter : filter.IsClauseText) (hsorts : sorts.IsClauseText) (clause : Clause) :
    clausePieces clause (markedWords (assembledText select tables filter sorts)) =
      match clause with
      | .select => Text.words select
      | .tables => Text.words tables
      | .filter => Text.words filter
      | .sorts => Text.words sorts
      | _ => [] := by
  have hgiven := isGiven_assembled hselect htables hfilter hsorts
  rw [← segmentsText_assembled, markedWords_given hgiven, clausePieces_segments, assembledSegments]
  simp only [List.flatMap_append, List.flatMap_cons, List.flatMap_nil, pieces_ofClause,
    StatementTexts.pieces_optional, flatMap_words_givenText?]
  cases clause <;> simp

private theorem read_assembled (hselect : select.IsClauseText) (hunlimited : IsUnlimited select)
    (htables : tables.IsClauseText) (hfilter : filter.IsClauseText)
    (hsorts : sorts.IsClauseText) :
    ClauseTexts.read (assembledText select tables filter sorts) = .ok {
      top := none
      select
      into := []
      tables
      joins := []
      filter
      groups := []
      having := []
      sorts } := by
  have htop : takeTop (Text.words select) = .ok (none, Text.words select) := by
    cases hwords : Text.words select with
    | nil => rfl
    | cons first others =>
      have hfirst : Text.sameLetters "top".toList first = false :=
        hunlimited first (by rw [hwords]; rfl)
      exact takeTop_of_other hfirst
  rw [ClauseTexts.read, ClauseTexts.ofMarked_eq_ok_iff]
  have hpieces := clausePieces_assembled hselect htables hfilter hsorts
  refine ⟨⟨_, by rw [hpieces]; exact htop, hselect.unwords_words.symm⟩, fun clause hclause => ?_⟩
  rw [hpieces]
  cases clause with
  | select => exact absurd rfl hclause
  | tables => exact htables.unwords_words.symm
  | filter => exact hfilter.unwords_words.symm
  | sorts => exact hsorts.unwords_words.symm
  | into | joins | groups | having => rfl

/-- Reading the statement that is assembled from the texts of the clauses gives the query that is
put together from them directly. -/
theorem Query.assembled_parses_as_built (hselect : select.IsClauseText)
    (hunlimited : IsUnlimited select) (htables : tables.IsClauseText)
    (hfilter : filter.IsClauseText) (hsorts : sorts.IsClauseText) :
    Query.parse (assembledText select tables filter sorts) =
      .ok (Query.build select tables filter sorts) := by
  have hjoins : Join.parseListWith Query.parse? [] = .ok [] := by
    rw [Join.parseListWith, joinPieces, Text.words_nil]
    rfl
  have hread := read_assembled hselect hunlimited htables hfilter hsorts
  rw [Query.parse_eq, Query.parseWith]
  refine bind_eq_ok.2 ⟨_, hread, ?_⟩
  exact bind_eq_ok.2 ⟨[], hjoins, rfl⟩

end Assembled

/-- Statements nested in a field and in the filter, and no order. -/
theorem Query.assembled_parses_as_built_of_nested_statements :
    let select : Text := "t.id, last = (SELECT x FROM y ORDER BY x)".toList
    let tables : Text := "t, users AS u".toList
    let filter : Text := "t.id IN (SELECT id FROM y WHERE x > 3) OR u.age < 9".toList
    select.IsClauseText ∧ IsUnlimited select ∧ tables.IsClauseText ∧ filter.IsClauseText ∧
      Text.IsClauseText [] ∧ Query.parse (assembledText select tables filter []) =
        .ok (Query.build select tables filter []) := by
  intro select tables filter
  have hselect : select.IsClauseText := .inr (by decide)
  have hunlimited : IsUnlimited select := by
    unfold IsUnlimited
    decide
  have htables : tables.IsClauseText := .inr (by decide)
  have hfilter : filter.IsClauseText := .inr (by decide)
  have hsorts : Text.IsClauseText [] := .inl rfl
  exact ⟨hselect, hunlimited, htables, hfilter, hsorts,
    assembled_parses_as_built hselect hunlimited htables hfilter hsorts⟩

end SqlSelect
