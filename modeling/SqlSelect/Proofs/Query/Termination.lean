import SqlSelect.Query.Trace
import SqlSelect.Proofs.Text.Openings
import SqlSelect.Proofs.Query.Switches
import SqlSelect.Proofs.Query.RoundTrip

/-!
How deep reading goes. A statement asks for the statements nested in its fields and for no other,
and each of these has lost the parenthesis around it. Main statement: reading is well founded, as
deep as a statement has opening parentheses at most, and more levels than that change nothing.
-/

set_option autoImplicit false
set_option relaxedAutoImplicit false

namespace SqlSelect

/-! ## Opening parentheses of a clause -/

private theorem JoinKind.openings_sql (kind : JoinKind) : kind.sql.count '(' = 0 := by
  cases kind <;> decide

private theorem MarkedWord.openings_remains_le (clause : Clause) (marked : MarkedWord) :
    (marked.remains clause).flatten.count '(' ≤ marked.word.count '(' := by
  -- the phrase of a join may be longer than the switch it stands for, but has no parenthesis
  rw [remains]
  split
  · split
    · cases JoinKind.ofSwitch? marked.word with
      | none => simp
      | some kind => simp [JoinKind.openings_sql]
    · simp
  · split <;> simp

private theorem openings_clausePieces_le (clause current : Clause) (previous : Option Clause)
    (depth : Int) (pieces : List Text) :
    (clausePieces clause (markWords current previous depth pieces)).flatten.count '(' ≤
      pieces.flatten.count '(' := by
  induction pieces generalizing current previous depth with
  | nil => simp [markWords, clausePieces]
  | cons word rest ih =>
    have hmark (marked : MarkedWord) (more : List MarkedWord) (hword : marked.word = word)
        (hmore : (clausePieces clause more).flatten.count '(' ≤ rest.flatten.count '(') :
        (clausePieces clause (marked :: more)).flatten.count '(' ≤
          (word :: rest).flatten.count '(' := by
      have hfirst := marked.openings_remains_le clause
      rw [hword] at hfirst
      rw [clausePieces, List.flatMap_cons, List.flatten_append, List.count_append,
        List.flatten_cons, List.count_append]
      exact Nat.add_le_add hfirst hmore
    rw [markWords]
    split
    · exact hmark _ _ rfl (ih ..)
    · exact hmark _ _ rfl (ih ..)

private theorem TakesLimit.sublist {selected rest : List Text} {top : Option UInt32}
    (h : TakesLimit selected top rest) : rest.Sublist selected := by
  cases h with
  | unlimited => exact List.Sublist.refl _
  | limited => exact ((List.Sublist.refl rest).cons _).cons _

private theorem ClauseTexts.openings_text_le {statement : Text} {texts : ClauseTexts}
    (h : ClauseTexts.read statement = .ok texts) (clause : Clause) :
    (texts.text clause).count '(' ≤ statement.count '(' := by
  obtain ⟨⟨rest, htop, hselect⟩, hothers⟩ := ClauseTexts.ofMarked_eq_ok_iff.1 h
  have hpieces : (clausePieces clause (markedWords statement)).flatten.count '(' ≤
      statement.count '(' := by
    calc (clausePieces clause (markedWords statement)).flatten.count '('
        ≤ (Text.words (Text.withoutComments statement)).flatten.count '(' :=
          openings_clausePieces_le ..
      _ = (Text.withoutComments statement).count '(' := Text.count_flatten_words _
      _ ≤ statement.count '(' := Text.count_withoutComments_le statement
  by_cases hclause : clause = .select
  · subst hclause
    have hrest := (takeTop_eq_ok_iff.1 htop).sublist
    have htext : texts.text .select = Text.unwords rest := hselect
    rw [htext, Text.count_unwords]
    exact (Text.count_flatten_le_of_sublist hrest).trans hpieces
  · rw [hothers clause hclause, Text.count_unwords]
    exact hpieces

/-- The text of a clause may be longer than the statement, so its length is no measure. -/
example : (ClauseTexts.read "LEFT t".toList).toOption.map (·.joins) =
    some "LEFT OUTER JOIN t".toList := by decide

/-! ## Opening parentheses of a field -/

private theorem sublist_of_mem_splitJoins {start : Int} {pieces run : List Text}
    (h : run ∈ splitJoins start pieces) : run.Sublist pieces := by
  induction pieces generalizing start run with
  | nil => simp [splitJoins] at h
  | cons word rest ih =>
    cases rest with
    | nil => rw [List.mem_singleton.1 h]
    | cons next rest =>
      obtain ⟨first, others, hsplit⟩ :=
        List.exists_cons_of_ne_nil (@splitJoins_ne_nil (start + Text.depth word) next rest)
      have hruns (other : List Text) (hmem : other ∈ first :: others) :
          other.Sublist (next :: rest) := ih (hsplit ▸ hmem)
      rw [splitJoins_cons hsplit] at h
      split at h
      · rcases List.mem_cons.1 h with rfl | hmem
        · exact (List.nil_sublist _).cons_cons word
        · exact (hruns run hmem).cons word
      · rcases List.mem_cons.1 h with rfl | hmem
        · exact (hruns first List.mem_cons_self).cons_cons word
        · exact (hruns run (List.mem_cons_of_mem _ hmem)).cons word

private theorem openings_le_of_mem_joinPieces {text piece : Text} (h : piece ∈ joinPieces text) :
    piece.count '(' ≤ text.count '(' := by
  obtain ⟨run, hrun, rfl⟩ := List.mem_map.1 h
  rw [Text.count_unwords, ← Text.count_flatten_words text]
  exact Text.count_flatten_le_of_sublist (sublist_of_mem_splitJoins hrun)

private theorem JoinText.openings_le_of_read {text : Text} {parts : JoinText}
    (h : JoinText.read text = .ok parts) :
    parts.localField.count '(' ≤ text.count '(' ∧
      parts.foreignField.count '(' ≤ text.count '(' := by
  obtain ⟨front, back, left, right, hcut, -, hsplit, -, -, hlocal, hforeign⟩ :=
    JoinText.read_eq_ok_iff.1 h
  have hside (side : List Text) (hmem : side ∈ [left, right]) :
      (Text.unwords side).count '(' ≤ text.count '(' := by
    rw [← hsplit, splitEquals_eq_splitWords] at hmem
    calc (Text.unwords side).count '(' = side.flatten.count '(' := Text.count_unwords side
      _ ≤ (Text.words back).flatten.count '(' :=
        Text.count_flatten_le_of_sublist (Text.sublist_of_mem_splitWords hmem)
      _ = back.count '(' := Text.count_flatten_words back
      _ ≤ (Text.trim text).count '(' := (Text.sublist_of_cut? hcut).count_le _
      _ ≤ text.count '(' := (Text.trim_sublist text).count_le _
  rw [hlocal, hforeign]
  exact ⟨hside left (by simp), hside right (by simp)⟩

private theorem exists_piece_of_mem_joinFieldTexts {pieces : List Text} {text : Text}
    (h : text ∈ (joinFieldTexts pieces).1) :
    ∃ piece ∈ pieces, text.count '(' ≤ piece.count '(' := by
  induction pieces with
  | nil => simp [joinFieldTexts] at h
  | cons piece rest ih =>
    rw [joinFieldTexts] at h
    split at h
    · simp at h
    · next parts hparts =>
      have hsides := JoinText.openings_le_of_read hparts
      rcases List.mem_cons.1 h with rfl | h
      · exact ⟨piece, List.mem_cons_self, hsides.1⟩
      · rcases List.mem_cons.1 h with rfl | h
        · exact ⟨piece, List.mem_cons_self, hsides.2⟩
        · obtain ⟨other, hother, hle⟩ := ih h
          exact ⟨other, List.mem_cons_of_mem _ hother, hle⟩

private theorem sortParts_sublist (text : Text) : (sortParts text).1.Sublist text := by
  simp only [sortParts]
  split
  · next front last hcut =>
    have hfront := (Text.sublist_of_cutLast? hcut).trans (Text.trim_sublist text)
    split
    · exact hfront
    · split
      · exact hfront
      · exact Text.trim_sublist text
  · exact Text.trim_sublist text

private theorem openings_le_of_mem_fieldTexts {statement text : Text} {texts : ClauseTexts}
    (h : ClauseTexts.read statement = .ok texts) (hmem : text ∈ fieldTexts texts) :
    text.count '(' ≤ statement.count '(' := by
  have hclause (clause : Clause) := ClauseTexts.openings_text_le h clause
  have hselected (entry : Text) (hentry : entry ∈ Text.items texts.select) :
      entry.count '(' ≤ statement.count '(' :=
    ((Text.sublist_of_mem_items hentry).count_le _).trans (hclause .select)
  rw [fieldTexts, List.mem_append, List.mem_append] at hmem
  rcases hmem with (hmem | hmem) | hmem
  · split at hmem
    · exact absurd hmem List.not_mem_nil
    · exact hselected text hmem
  · obtain ⟨piece, hpiece, hle⟩ := exists_piece_of_mem_joinFieldTexts hmem
    exact (hle.trans (openings_le_of_mem_joinPieces hpiece)).trans (hclause .joins)
  · split at hmem
    · rcases List.mem_append.1 hmem with hgroup | hsort
      · exact ((Text.sublist_of_mem_items hgroup).count_le _).trans (hclause .groups)
      · obtain ⟨entry, hentry, rfl⟩ := List.mem_map.1 hsort
        have hpart := (sortParts_sublist entry).trans (Text.sublist_of_mem_items hentry)
        exact (hpart.count_le _).trans (hclause .sorts)
    · exact absurd hmem List.not_mem_nil

private theorem openings_lt_of_nestedText? {text inner : Text} (h : nestedText? text = some inner) :
    inner.count '(' < text.count '(' := by
  simp only [nestedText?] at h
  split at h
  · obtain ⟨⟨name, statement⟩, hparts, rfl⟩ := Option.map_eq_some_iff.1 h
    rw [nestedParts?] at hparts
    split at hparts
    · next front back hsplit =>
      obtain ⟨inner, hinside, hpair⟩ := Option.map_eq_some_iff.1 hparts
      obtain ⟨-, rfl⟩ := Prod.mk.inj hpair
      have hback : back ∈ Text.splitTopLevel '=' (Text.trim text) := by simp [hsplit]
      have hpart := ((Text.sublist_of_inside? hinside).trans (Text.trim_sublist back)).trans
        ((Text.sublist_of_mem_splitFrom hback).trans (Text.trim_sublist text))
      have hcount := hpart.count_le '('
      rw [List.count_cons_self] at hcount
      exact hcount
    · simp at hparts
  · simp at h

/-! ## Nested statements -/

namespace Query

/-- The statements nested in a statement, in the order in which they are read. -/
def nestedStatements (statement : Text) : List Text :=
  match ClauseTexts.read statement with
  | .error _ => []
  | .ok texts => (fieldTexts texts).filterMap nestedText?

/-- Only what stands in parentheses behind `=` is asked for. -/
example : nestedStatements "SELECT n = (SELECT a FROM b), f (c) FROM t".toList =
    ["SELECT a FROM b".toList] := by decide

/-- Whether reading the outer statement asks for the inner one. -/
def Asks (outer inner : Text) : Prop := inner ∈ nestedStatements outer

private theorem nestedStatements_of_read {statement : Text} {texts : ClauseTexts}
    (h : ClauseTexts.read statement = .ok texts) :
    nestedStatements statement = (fieldTexts texts).filterMap nestedText? := by
  rw [nestedStatements, h]

private theorem Asks.openings_lt {outer inner : Text} (h : Asks outer inner) :
    inner.count '(' < outer.count '(' := by
  rw [Asks, nestedStatements] at h
  split at h
  · exact absurd h List.not_mem_nil
  · next texts hread =>
    obtain ⟨text, htext, hnested⟩ := List.mem_filterMap.1 h
    exact (openings_lt_of_nestedText? hnested).trans_le (openings_le_of_mem_fieldTexts hread htext)

end Query

/-! ## Readers of nested statements -/

section Readers

variable {nested other : Text → Option Query}

/-- Whether two readers read the statements nested in some field texts alike. -/
private def ReadAlike (nested other : Text → Option Query) (texts : List Text) : Prop :=
  ∀ text ∈ texts, ∀ inner ∈ nestedText? text, nested inner = other inner

private theorem Field.parseWith_congr {text : Text}
    (h : ∀ inner ∈ nestedText? text, nested inner = other inner) :
    Field.parseWith nested text = Field.parseWith other text := by
  simp only [Field.parseWith]
  split
  · next hspaced =>
    cases hparts : nestedParts? (Text.trim text) with
    | none => rfl
    | some parts =>
      have hinner : parts.2 ∈ nestedText? text := by simp [nestedText?, hspaced, hparts]
      simp only [h _ hinner]
  · rfl

private theorem Field.parseListWith_congr {text : Text}
    (h : ReadAlike nested other (Text.items text)) :
    Field.parseListWith nested text = Field.parseListWith other text :=
  List.map_congr_left fun entry hentry => Field.parseWith_congr (h entry hentry)

private theorem parseProjectionWith_congr {text : Text}
    (h : Text.trim text ≠ ['*'] → ReadAlike nested other (Text.items text)) :
    parseProjectionWith nested text = parseProjectionWith other text := by
  rw [parseProjectionWith, parseProjectionWith]
  split
  · rfl
  · next hlisted => rw [Field.parseListWith_congr (h hlisted)]

private theorem SortKey.parseListWith_congr {text : Text}
    (h : ReadAlike nested other ((Text.items text).map fun entry => (sortParts entry).1)) :
    SortKey.parseListWith nested text = SortKey.parseListWith other text := by
  refine List.map_congr_left fun entry hentry => ?_
  have hfield := Field.parseWith_congr (h _ (List.mem_map_of_mem hentry))
  exact congrArg (SortKey.mk · (sortParts entry).2) hfield

private theorem joinFieldTexts_of_ok {piece : Text} {parts : JoinText}
    (h : JoinText.read piece = .ok parts) (rest : List Text) :
    joinFieldTexts (piece :: rest) =
      (parts.localField :: parts.foreignField :: (joinFieldTexts rest).1,
        (joinFieldTexts rest).2) := by
  rw [joinFieldTexts, h]

private theorem Join.ofTextWith_congr {parts : JoinText}
    (h : ReadAlike nested other [parts.localField, parts.foreignField]) :
    Join.ofTextWith nested parts = Join.ofTextWith other parts := by
  have hlocal := Field.parseWith_congr (h parts.localField (by simp))
  have hforeign := Field.parseWith_congr (h parts.foreignField (by simp))
  rw [Join.ofTextWith, Join.ofTextWith, hlocal, hforeign]

private theorem Join.mapM_parseWith_congr {pieces : List Text}
    (h : ReadAlike nested other (joinFieldTexts pieces).1) :
    pieces.mapM (Join.parseWith nested) = pieces.mapM (Join.parseWith other) := by
  -- nothing behind a join that cannot be read is asked for, since the failure is the outcome
  induction pieces with
  | nil => rfl
  | cons piece rest ih =>
    rw [List.mapM_cons, List.mapM_cons]
    cases hread : JoinText.read piece with
    | error cause =>
      rw [Join.parseWith_of_error hread, Join.parseWith_of_error hread]
      rfl
    | ok parts =>
      rw [joinFieldTexts_of_ok hread] at h
      have hsides : ReadAlike nested other [parts.localField, parts.foreignField] :=
        fun text hmem => h text (List.mem_append_left (joinFieldTexts rest).1 hmem)
      have hrest : ReadAlike nested other (joinFieldTexts rest).1 :=
        fun text hmem => h text (List.mem_append_right [parts.localField, parts.foreignField] hmem)
      rw [Join.parseWith_of_ok hread, Join.parseWith_of_ok hread, Join.ofTextWith_congr hsides,
        ih hrest]

private theorem Join.exists_error_of_joinFieldTexts {pieces : List Text}
    (h : (joinFieldTexts pieces).2 = false) :
    ∃ cause, ∀ nested, pieces.mapM (Join.parseWith nested) = .error cause := by
  induction pieces with
  | nil => simp [joinFieldTexts] at h
  | cons piece rest ih =>
    cases hread : JoinText.read piece with
    | error cause =>
      refine ⟨cause, fun nested => ?_⟩
      rw [List.mapM_cons, Join.parseWith_of_error hread]
      rfl
    | ok parts =>
      rw [joinFieldTexts_of_ok hread] at h
      obtain ⟨cause, hcause⟩ := ih h
      refine ⟨cause, fun nested => ?_⟩
      rw [List.mapM_cons, Join.parseWith_of_ok hread, hcause nested]
      rfl

private theorem Query.ofClausesWith_congr {texts : ClauseTexts}
    (h : ReadAlike nested other (fieldTexts texts)) :
    ofClausesWith nested texts = ofClausesWith other texts := by
  have hprojection : parseProjectionWith nested texts.select =
      parseProjectionWith other texts.select := by
    refine parseProjectionWith_congr fun hlisted text hmem => h text ?_
    rw [fieldTexts, if_neg hlisted]
    exact List.mem_append_left _ (List.mem_append_left _ hmem)
  have hjoins : Join.parseListWith nested texts.joins = Join.parseListWith other texts.joins := by
    refine Join.mapM_parseWith_congr fun text hmem => h text ?_
    rw [fieldTexts]
    exact List.mem_append_left _ (List.mem_append_right _ hmem)
  cases hcomplete : (joinFieldTexts (joinPieces texts.joins)).2 with
  | false =>
    obtain ⟨cause, hcause⟩ := Join.exists_error_of_joinFieldTexts hcomplete
    rw [ofClausesWith, ofClausesWith, Join.parseListWith, Join.parseListWith, hcause, hcause]
    rfl
  | true =>
    have hbehind (text : Text) (hmem : text ∈ Text.items texts.groups ++
        (Text.items texts.sorts).map fun entry => (sortParts entry).1) :
        text ∈ fieldTexts texts := by
      rw [fieldTexts]
      refine List.mem_append_right _ ?_
      rw [if_pos hcomplete]
      exact hmem
    have hgroups := Field.parseListWith_congr fun text hmem =>
      h text (hbehind text (List.mem_append_left _ hmem))
    have hsorts := SortKey.parseListWith_congr fun text hmem =>
      h text (hbehind text (List.mem_append_right _ hmem))
    rw [ofClausesWith, ofClausesWith, hprojection, hjoins, hgroups, hsorts]

private theorem Query.parseWith_congr {statement : Text}
    (h : ∀ inner, Asks statement inner → nested inner = other inner) :
    parseWith nested statement = parseWith other statement := by
  rw [parseWith, parseWith]
  cases hread : ClauseTexts.read statement with
  | error cause => rfl
  | ok texts =>
    refine ofClausesWith_congr fun text hmem inner hinner => h inner ?_
    rw [Asks, nestedStatements_of_read hread]
    exact List.mem_filterMap.2 ⟨text, hmem, hinner⟩

end Readers

/-! ## Levels -/

namespace Query

private theorem Asks.exists_level {outer inner : Text} {levels : Nat} (h : Asks outer inner)
    (hlevels : outer.count '(' ≤ levels) :
    ∃ fewer, levels = fewer + 1 ∧ inner.count '(' ≤ fewer := by
  have hlt := h.openings_lt
  exact ⟨levels - 1, by omega, by omega⟩

private theorem wellFounded_asks : WellFounded fun inner outer => Asks outer inner :=
  Subrelation.wf Asks.openings_lt (measure fun text : Text => text.count '(').wf

/-- A recursion that goes down a level for each statement asked for needs no more levels than the
statement has opening parentheses. -/
private theorem levels_congr {β : Type} {run : Nat → Text → β}
    (hstep : ∀ {statement first second}, (∀ inner, Asks statement inner →
      ∃ fewer less, first = fewer + 1 ∧ second = less + 1 ∧ run fewer inner = run less inner) →
        run first statement = run second statement)
    {first second : Nat} {statement : Text} (hfirst : statement.count '(' ≤ first)
    (hsecond : statement.count '(' ≤ second) : run first statement = run second statement := by
  induction statement using wellFounded_asks.induction generalizing first second with
  | _ statement ih =>
    refine hstep fun inner hasks => ?_
    obtain ⟨fewer, hfewer, hle⟩ := hasks.exists_level hfirst
    obtain ⟨less, hless, hle'⟩ := hasks.exists_level hsecond
    exact ⟨fewer, less, hfewer, hless, ih inner hasks hle hle'⟩

private theorem parseTo_congr {first second : Nat} {statement : Text}
    (hfirst : statement.count '(' ≤ first)
    (hsecond : statement.count '(' ≤ second) :
    parseTo first statement = parseTo second statement := by
  refine levels_congr (fun {statement first second} hinner => ?_) hfirst hsecond
  rw [parseTo_eq, parseTo_eq]
  refine parseWith_congr fun inner hasks => ?_
  obtain ⟨fewer, less, rfl, rfl, hsame⟩ := hinner inner hasks
  exact congrArg Except.toOption hsame

/-- Reading a statement reads the statements it asks for in the same way, without any levels. -/
theorem parse_eq (statement : Text) : parse statement = parseWith parse? statement := by
  rw [parse, parseTo_eq]
  refine parseWith_congr fun inner hasks => ?_
  obtain ⟨fewer, hlevels, hinner⟩ := hasks.exists_level (Nat.le_refl _)
  rw [hlevels]
  exact congrArg Except.toOption (parseTo_congr hinner (Nat.le_refl _))

/-- The steps of reading a statement itself, without those of nested statements. -/
def ownSteps (statement : Text) : List ReadingStep :=
  switchSteps (markedWords statement) ++ match ClauseTexts.read statement with
    | .error _ => []
    | .ok texts => [.clauses texts]

private theorem readingStepsWith_eq (nested : Text → List ReadingStep) (statement : Text) :
    readingStepsWith nested statement =
      ownSteps statement ++ (nestedStatements statement).flatMap nested := by
  rw [readingStepsWith, ownSteps, nestedStatements, ClauseTexts.read]
  cases ClauseTexts.ofMarked (markedWords statement) <;> simp

private theorem readingStepsWith_congr {nested other : Text → List ReadingStep} {statement : Text}
    (h : ∀ inner, Asks statement inner → nested inner = other inner) :
    readingStepsWith nested statement = readingStepsWith other statement := by
  rw [readingStepsWith_eq, readingStepsWith_eq, List.flatMap_congr h]

private def nestedSteps : Nat → Text → List ReadingStep
  | 0, _ => []
  | levels + 1, inner => readingStepsTo levels inner

private theorem readingStepsTo_eq (levels : Nat) :
    readingStepsTo levels = readingStepsWith (nestedSteps levels) := by
  cases levels <;> rfl

private theorem readingStepsTo_congr {first second : Nat} {statement : Text}
    (hfirst : statement.count '(' ≤ first) (hsecond : statement.count '(' ≤ second) :
    readingStepsTo first statement = readingStepsTo second statement := by
  refine levels_congr (fun {statement first second} hinner => ?_) hfirst hsecond
  rw [readingStepsTo_eq, readingStepsTo_eq]
  refine readingStepsWith_congr fun inner hasks => ?_
  obtain ⟨fewer, less, rfl, rfl, hsame⟩ := hinner inner hasks
  exact hsame

private theorem readingSteps_eq (statement : Text) :
    readingSteps statement =
      ownSteps statement ++ (nestedStatements statement).flatMap readingSteps := by
  rw [← readingStepsWith_eq, readingSteps, readingStepsTo_eq]
  refine readingStepsWith_congr fun inner hasks => ?_
  obtain ⟨fewer, hlevels, hinner⟩ := hasks.exists_level (Nat.le_refl _)
  rw [hlevels]
  exact readingStepsTo_congr hinner (Nat.le_refl _)

/-! ## Depth -/

private theorem openings_lt_of_transGen {outer inner : Text}
    (h : Relation.TransGen Asks outer inner) :
    inner.count '(' < outer.count '(' := by
  induction h with
  | single hasks => exact hasks.openings_lt
  | tail _ hasks ih => exact hasks.openings_lt.trans ih

private theorem length_le_of_isChain {statement : Text} {chain : List Text}
    (h : List.IsChain Asks (statement :: chain)) : chain.length ≤ statement.count '(' := by
  induction chain generalizing statement with
  | nil => exact Nat.zero_le _
  | cons inner rest ih =>
    obtain ⟨hasks, hrest⟩ := List.isChain_cons_cons.1 h
    have hlt := hasks.openings_lt
    have hle := ih hrest
    rw [List.length_cons]
    omega

/-- Reading terminates. A statement asks for nested ones only, which its outcome depends on and its
steps are made of, and the relation is well founded: whatever is reached has fewer opening
parentheses, so a chain of nested statements is no longer than the parentheses of the first. With
that many levels, or more, a statement is read as if there were no levels. -/
theorem reading_terminates :
    (WellFounded fun inner outer => Asks outer inner) ∧
    ∀ statement : Text,
      (∀ nested other : Text → Option Query,
        (∀ inner, Asks statement inner → nested inner = other inner) →
          parseWith nested statement = parseWith other statement) ∧
      (readingSteps statement =
        ownSteps statement ++ (nestedStatements statement).flatMap readingSteps) ∧
      (∀ inner, Relation.TransGen Asks statement inner →
        inner.count '(' < statement.count '(') ∧
      (∀ chain : List Text, (statement :: chain).IsChain Asks →
        chain.length ≤ statement.count '(') ∧
      (∀ levels, statement.count '(' ≤ levels →
        parseTo levels statement = parseTo (statement.count '(') statement) ∧
      parse statement = parseWith parse? statement := by
  refine ⟨wellFounded_asks, fun statement => ⟨?_, readingSteps_eq statement, ?_, ?_, ?_,
    parse_eq statement⟩⟩
  · intro nested other h
    exact parseWith_congr h
  · intro inner hreached
    exact openings_lt_of_transGen hreached
  · intro chain hchain
    exact length_le_of_isChain hchain
  · intro levels hlevels
    exact parseTo_congr hlevels (Nat.le_refl _)

end Query

end SqlSelect
