import SqlSelect.Proofs.Query.JoinText
import SqlSelect.Proofs.Query.Switches
import SqlSelect.Proofs.Traversal

/-!
The joins of a statement that was read, against the words that switch to a join. Main statement: a
statement has one join for each `INNER` and each `LEFT` that switches, and the kinds are those of
the switches unless the text of a nested join is taken for the kind of the join that holds it.
-/

set_option autoImplicit false
set_option relaxedAutoImplicit false

namespace SqlSelect

def MarkedWord.joinKind? (marked : MarkedWord) : Option JoinKind :=
  if marked.switches then JoinKind.ofSwitch? marked.word else none

def joinKinds (marks : List MarkedWord) : List JoinKind := marks.filterMap MarkedWord.joinKind?

/-- A switch that begins a join, with the words among the joins up to the next such switch. -/
structure JoinRun where
  kind : JoinKind
  words : List Text
deriving DecidableEq

/-- The words among the joins in front of the first switch that begins a join, and the runs. -/
def joinRuns : List MarkedWord → List Text × List JoinRun
  | [] => ([], [])
  | marked :: rest =>
    let (lead, runs) := joinRuns rest
    match marked.joinKind? with
    | some kind => ([], ⟨kind, lead⟩ :: runs)
    | none =>
      (if marked.switches = false ∧ marked.clause = .joins then marked.word :: lead else lead, runs)

namespace JoinRun

def body (run : JoinRun) : Text := run.words.flatMap (' ' :: ·)

private def pieces (run : JoinRun) : List Text := Text.words run.kind.sql ++ run.words

/-- Whether a left outer join is spelled out in front of the first `ON` of a run. -/
def SpellsLeftOuter (run : JoinRun) : Prop :=
  ∃ front back, Text.cutWord? "on".toList run.body = some (front, back) ∧
    Text.foldCase JoinKind.leftOuter.sql <:+: Text.foldCase front

end JoinRun

def firstJoinSwitch? (marks : List MarkedWord) : Option MarkedWord :=
  marks.find? fun marked => marked.switches && decide (marked.clause = .joins)

/-- The words among the joins of a statement, a switch that begins a join standing for its kind. -/
private def joinWords (marks : List MarkedWord) : List Text :=
  (clausePieces .joins marks).flatMap Text.words

private theorem joinKinds_eq (marks : List MarkedWord) :
    joinKinds marks = (joinRuns marks).2.map JoinRun.kind := by
  induction marks with
  | nil => rfl
  | cons marked rest ih =>
    rw [joinKinds] at ih
    rw [joinKinds, joinRuns]
    cases hkind : marked.joinKind? with
    | none => rw [List.filterMap_cons_none hkind, ih]
    | some kind => rw [List.filterMap_cons_some hkind, ih, List.map_cons]

section Splitting

private theorem ofSwitch?_isSome (word : Text) :
    (JoinKind.ofSwitch? word).isSome = startsJoin word := by
  rw [JoinKind.ofSwitch?, startsJoin]
  cases Text.sameLetters "inner".toList word <;> cases Text.sameLetters "left".toList word <;> rfl

private theorem splitJoins_kind (kind : JoinKind) {rest lead : List Text} {runs : List (List Text)}
    (h : ∀ word : Text, Text.depth word = 0 → splitJoins 0 (word :: rest) = (word :: lead) :: runs) :
    splitJoins 0 (Text.words kind.sql ++ rest) = (Text.words kind.sql ++ lead) :: runs := by
  have hlast := h "JOIN".toList (by decide)
  cases kind with
  | inner =>
    have hwords : Text.words JoinKind.inner.sql = ["INNER".toList, "JOIN".toList] := by decide
    rw [hwords]
    exact (splitJoins_cons hlast).trans (if_neg (by decide))
  | leftOuter =>
    have hwords : Text.words JoinKind.leftOuter.sql =
        ["LEFT".toList, "OUTER".toList, "JOIN".toList] := by decide
    have houter : splitJoins 0 ("OUTER".toList :: "JOIN".toList :: rest) =
        ("OUTER".toList :: "JOIN".toList :: lead) :: runs :=
      (splitJoins_cons hlast).trans (if_neg (by decide))
    rw [hwords]
    exact (splitJoins_cons houter).trans (if_neg (by decide))

private theorem ofWord?_of_startsJoin {word : Text} (h : startsJoin word = true)
    (previous : Option Clause) : Clause.ofWord? previous word = some .joins := by
  refine Clause.ofWord?_eq_some_iff.2 (Or.inl ?_)
  rw [startsJoin, Bool.or_eq_true] at h
  rw [Clause.isKeyword, List.any_eq_true]
  rcases h with hinner | hleft
  · exact ⟨"inner".toList, by decide, hinner⟩
  · exact ⟨"left".toList, by decide, hleft⟩

private theorem depth_of_ofWord? {word : Text} {previous : Option Clause} {clause : Clause}
    (h : Clause.ofWord? previous word = some clause) : Text.depth word = 0 := by
  apply depth_of_isClauseWord
  by_contra hother
  rw [ofWord?_eq_none (Bool.eq_false_iff.2 hother)] at h
  exact Option.noConfusion rfl (heq_of_eq h)

section Marks

variable (word : Text) (clause : Clause) (rest : List MarkedWord)

private theorem joinRuns_cons_kind {word : Text} {kind : JoinKind}
    (h : JoinKind.ofSwitch? word = some kind) :
    joinWords (⟨word, clause, true⟩ :: rest) = Text.words kind.sql ++ joinWords rest ∧
      joinRuns (⟨word, clause, true⟩ :: rest) = ([], ⟨kind, (joinRuns rest).1⟩ :: (joinRuns rest).2) := by
  constructor
  · simp [joinWords, clausePieces, MarkedWord.remains, h]
  · rw [joinRuns, MarkedWord.joinKind?]
    simp only [if_true, h]

private theorem joinRuns_cons_switch {word : Text} (h : JoinKind.ofSwitch? word = none) :
    joinWords (⟨word, clause, true⟩ :: rest) = joinWords rest ∧
      joinRuns (⟨word, clause, true⟩ :: rest) = joinRuns rest := by
  constructor
  · simp [joinWords, clausePieces, MarkedWord.remains, h]
  · rw [joinRuns, MarkedWord.joinKind?]
    simp only [if_true, h]
    rfl

private theorem joinRuns_cons_joined {word : Text} (h : word.IsWord) :
    joinWords (⟨word, .joins, false⟩ :: rest) = word :: joinWords rest ∧
      joinRuns (⟨word, .joins, false⟩ :: rest) =
        (word :: (joinRuns rest).1, (joinRuns rest).2) := by
  constructor
  · simp [joinWords, clausePieces, MarkedWord.remains, Text.words_of_isWord h]
  · rfl

private theorem joinRuns_cons_other {clause : Clause} (h : clause ≠ .joins) :
    joinWords (⟨word, clause, false⟩ :: rest) = joinWords rest ∧
      joinRuns (⟨word, clause, false⟩ :: rest) = joinRuns rest := by
  constructor
  · simp [joinWords, clausePieces, MarkedWord.remains, h]
  · rw [joinRuns, MarkedWord.joinKind?]
    simp [h]

end Marks

private theorem words_sql_begins (kind : JoinKind) : ∃ begun others,
    Text.words kind.sql = begun :: others ∧ startsJoin begun = true := by
  cases kind with
  | inner => exact ⟨"INNER".toList, ["JOIN".toList], by decide, by decide⟩
  | leftOuter => exact ⟨"LEFT".toList, ["OUTER".toList, "JOIN".toList], by decide, by decide⟩

/-- Behind a word of the joins the marks are cut into the words that go on with its join and the
runs. The depth among the joins is that of the statement there and zero elsewhere, so the words of a
run begin no join. -/
private theorem splitJoins_joinWords {pieces : List Text} (hpieces : ∀ word ∈ pieces, word.IsWord)
    {current : Clause} {previous : Option Clause} {depth start : Int} {first : Text}
    (hstart : start + Text.depth first = if current = .joins then depth else 0) :
    let marks := markWords current previous depth pieces
    splitJoins start (first :: joinWords marks) =
      (first :: (joinRuns marks).1) :: (joinRuns marks).2.map JoinRun.pieces := by
  induction pieces generalizing current previous depth start first with
  | nil => rfl
  | cons word rest ih =>
    obtain ⟨hword, hrest⟩ := List.forall_mem_cons.1 hpieces
    by_cases hswitch : depth + Text.depth word = 0 ∧ (Clause.ofWord? previous word).isSome = true
    · obtain ⟨hclosed, hsome⟩ := hswitch
      obtain ⟨clause, hclause⟩ := Option.isSome_iff_exists.1 hsome
      have hflat := depth_of_ofWord? hclause
      have hafter : start + Text.depth first = 0 := by
        rw [hstart]
        split <;> omega
      have hbehind : 0 = if clause = .joins then depth + Text.depth word else 0 := by
        rw [hclosed, ite_self]
      rw [markWords_switch hclosed hclause]
      cases hkind : JoinKind.ofSwitch? word with
      | none =>
        obtain ⟨hwords, hruns⟩ := joinRuns_cons_switch clause
          (markWords clause (some clause) (depth + Text.depth word) rest) hkind
        simp only [hwords, hruns]
        exact ih hrest (hafter.trans hbehind)
      | some kind =>
        obtain ⟨hwords, hruns⟩ := joinRuns_cons_kind clause
          (markWords clause (some clause) (depth + Text.depth word) rest) hkind
        have hcut := splitJoins_kind kind fun last hlast =>
          @ih hrest clause (some clause) _ 0 last (((Int.zero_add _).trans hlast).trans hbehind)
        obtain ⟨begun, others, hbegun, hstarts⟩ := words_sql_begins kind
        simp only [hwords, hruns, List.map_cons, JoinRun.pieces]
        rw [hbegun, List.cons_append] at hcut ⊢
        exact (splitJoins_cons (by rw [hafter, hcut])).trans (if_pos ⟨hafter, hstarts⟩)
    · have hstays (hclosed : depth + Text.depth word = 0) :
          Clause.ofWord? previous word = none := by
        rw [← Option.not_isSome_iff_eq_none]
        exact fun hsome => hswitch ⟨hclosed, hsome⟩
      rw [markWords_own hstays]
      by_cases hcurrent : current = .joins
      · obtain rfl := hcurrent
        obtain ⟨hwords, hruns⟩ := joinRuns_cons_joined
          (markWords .joins none (depth + Text.depth word) rest) hword
        have hafter : start + Text.depth first = depth := hstart
        have hcut := @ih hrest .joins none (depth + Text.depth word) depth word rfl
        have hgoes : ¬(start + Text.depth first = 0 ∧ startsJoin word = true) := by
          rintro ⟨hflat, hbegins⟩
          have hclosed : depth + Text.depth word = 0 := by
            rw [← hafter, hflat, depth_of_startsJoin hbegins]
            rfl
          have hnone := hstays hclosed
          rw [ofWord?_of_startsJoin hbegins] at hnone
          exact Option.noConfusion rfl (heq_of_eq hnone)
        simp only [hwords, hruns]
        exact (splitJoins_cons (by rw [hafter, hcut])).trans (if_neg hgoes)
      · obtain ⟨hwords, hruns⟩ := joinRuns_cons_other word
          (markWords current none (depth + Text.depth word) rest) hcurrent
        simp only [hwords, hruns]
        exact ih hrest (by rw [hstart, if_neg hcurrent, if_neg hcurrent])

private theorem splitJoins_eq_runs {pieces : List Text} (hpieces : ∀ word ∈ pieces, word.IsWord)
    {current : Clause} {previous : Option Clause} {depth : Int} (hcurrent : current ≠ .joins)
    (hfirst : ∀ marked ∈ firstJoinSwitch? (markWords current previous depth pieces),
      startsJoin marked.word = true) :
    let marks := markWords current previous depth pieces
    splitJoins 0 (joinWords marks) = (joinRuns marks).2.map JoinRun.pieces := by
  induction pieces generalizing current previous depth with
  | nil => rfl
  | cons word rest ih =>
    obtain ⟨-, hrest⟩ := List.forall_mem_cons.1 hpieces
    by_cases hswitch : depth + Text.depth word = 0 ∧ (Clause.ofWord? previous word).isSome = true
    · obtain ⟨hclosed, hsome⟩ := hswitch
      obtain ⟨clause, hclause⟩ := Option.isSome_iff_exists.1 hsome
      rw [markWords_switch hclosed hclause] at hfirst ⊢
      cases hkind : JoinKind.ofSwitch? word with
      | none =>
        obtain ⟨hwords, hruns⟩ := joinRuns_cons_switch clause
          (markWords clause (some clause) (depth + Text.depth word) rest) hkind
        have hother : clause ≠ .joins := by
          rintro rfl
          have hbegins := hfirst _ rfl
          rw [← ofSwitch?_isSome, hkind] at hbegins
          exact Bool.noConfusion hbegins
        rw [firstJoinSwitch?, List.find?_cons_of_neg (by simpa using hother)] at hfirst
        simp only [hwords, hruns]
        exact ih hrest hother hfirst
      | some kind =>
        obtain ⟨hwords, hruns⟩ := joinRuns_cons_kind clause
          (markWords clause (some clause) (depth + Text.depth word) rest) hkind
        simp only [hwords, hruns, List.map_cons, JoinRun.pieces]
        refine splitJoins_kind kind fun last hlast => ?_
        refine splitJoins_joinWords hrest ?_
        rw [Int.zero_add, hlast, hclosed, ite_self]
    · have hstays (hclosed : depth + Text.depth word = 0) :
          Clause.ofWord? previous word = none := by
        rw [← Option.not_isSome_iff_eq_none]
        exact fun hsome => hswitch ⟨hclosed, hsome⟩
      rw [markWords_own hstays] at hfirst ⊢
      obtain ⟨hwords, hruns⟩ := joinRuns_cons_other word
        (markWords current none (depth + Text.depth word) rest) hcurrent
      rw [firstJoinSwitch?, List.find?_cons_of_neg (by simp)] at hfirst
      simp only [hwords, hruns]
      exact ih hrest hcurrent hfirst

end Splitting

section Reading

private theorem isWord_of_mem_joinRuns {marks : List MarkedWord}
    (h : ∀ marked ∈ marks, marked.word.IsWord) :
    (∀ word ∈ (joinRuns marks).1, word.IsWord) ∧
      ∀ run ∈ (joinRuns marks).2, ∀ word ∈ run.words, word.IsWord := by
  induction marks with
  | nil => exact ⟨nofun, nofun⟩
  | cons marked rest ih =>
    obtain ⟨hword, hrest⟩ := List.forall_mem_cons.1 h
    obtain ⟨hlead, hruns⟩ := ih hrest
    rw [joinRuns]
    cases marked.joinKind? with
    | some kind => exact ⟨nofun, List.forall_mem_cons.2 ⟨hlead, hruns⟩⟩
    | none =>
      refine ⟨?_, hruns⟩
      intro word hmem
      simp only at hmem
      split at hmem
      · exact List.forall_mem_cons.2 ⟨hword, hlead⟩ word hmem
      · exact hlead word hmem

namespace JoinRun

private def text (run : JoinRun) : Text := run.kind.sql ++ run.body

variable {run : JoinRun}

private theorem unwords_pieces (run : JoinRun) : Text.unwords run.pieces = run.text := by
  obtain ⟨kind, words⟩ := run
  cases kind with
  | inner =>
    have hwords : Text.words JoinKind.inner.sql = ["INNER".toList, "JOIN".toList] := by decide
    rw [pieces, hwords]
    exact Text.unwords_eq_flatMap _ _
  | leftOuter =>
    have hwords : Text.words JoinKind.leftOuter.sql =
        ["LEFT".toList, "OUTER".toList, "JOIN".toList] := by decide
    rw [pieces, hwords]
    exact Text.unwords_eq_flatMap _ _

private theorem trim_text (h : ∀ word ∈ run.words, word.IsWord) :
    Text.trim run.text = run.text := by
  have hpieces : ∀ word ∈ run.pieces, word.IsWord := by
    intro word hmem
    rcases List.mem_append.1 hmem with hkind | hword
    · exact Text.isWord_of_mem_words hkind
    · exact h word hword
  obtain ⟨begun, others, hbegun, -⟩ := words_sql_begins run.kind
  have hfilled : run.pieces ≠ [] := by
    rw [pieces, hbegun]
    exact List.cons_ne_nil _ _
  exact (Text.isSpaced_of_words hfilled hpieces run.unwords_pieces).trim_eq

private theorem cutWord?_text (run : JoinRun) : Text.cutWord? "on".toList run.text =
    (Text.cutWord? "on".toList run.body).map fun (front, back) => (run.kind.sql ++ front, back) := by
  refine Text.cut?_append_of_tails ?_ run.body
  cases run.kind <;> decide

end JoinRun

private theorem takeJoinKind?_kind {kind found : JoinKind} {front table : Text}
    (h : takeJoinKind? (kind.sql ++ front) = some (found, table)) :
    found = .leftOuter ↔ kind = .leftOuter ∨
      Text.foldCase JoinKind.leftOuter.sql <:+: Text.foldCase front := by
  cases kind with
  | leftOuter =>
    rw [takeJoinKind?, Text.cut?_append (by decide)] at h
    obtain ⟨rfl, -⟩ := Prod.mk.inj (Option.some.inj h)
    simp
  | inner =>
    have hcut : Text.cut? JoinKind.leftOuter.sql (JoinKind.inner.sql ++ front) = _ :=
      Text.cut?_append_of_tails (by decide) front
    rw [takeJoinKind?, hcut] at h
    rw [← Text.isSome_cut?_iff]
    cases hfound : Text.cut? JoinKind.leftOuter.sql front with
    | some parts =>
      rw [hfound] at h
      obtain ⟨rfl, -⟩ := Prod.mk.inj (Option.some.inj h)
      simp
    | none =>
      rw [hfound] at h
      obtain ⟨parts, -, hparts⟩ := Option.map_eq_some_iff.1 h
      obtain ⟨rfl, -⟩ := Prod.mk.inj hparts
      simp

private theorem JoinText.kind_of_read {run : JoinRun} (hwords : ∀ word ∈ run.words, word.IsWord)
    {parts : JoinText} (h : JoinText.read run.text = .ok parts) :
    parts.kind = .leftOuter ↔ run.kind = .leftOuter ∨ run.SpellsLeftOuter := by
  obtain ⟨_, back, -, -, hcut, hkind, -⟩ := JoinText.read_eq_ok_iff.1 h
  rw [JoinRun.trim_text hwords, JoinRun.cutWord?_text] at hcut
  obtain ⟨⟨front, _⟩, hbody, hsides⟩ := Option.map_eq_some_iff.1 hcut
  obtain ⟨rfl, rfl⟩ := Prod.mk.inj hsides
  have hspells : run.SpellsLeftOuter ↔
      Text.foldCase JoinKind.leftOuter.sql <:+: Text.foldCase front := by
    rw [JoinRun.SpellsLeftOuter, hbody]
    constructor
    · rintro ⟨_, _, hother, hspelled⟩
      obtain ⟨rfl, -⟩ := Prod.mk.inj (Option.some.inj hother)
      exact hspelled
    · intro hspelled
      exact ⟨front, _, rfl, hspelled⟩
  rw [hspells]
  exact takeJoinKind?_kind hkind

private def Join.IsReadFrom (join : Join) (run : JoinRun) : Prop :=
  join.kind = .leftOuter ↔ run.kind = .leftOuter ∨ run.SpellsLeftOuter

private theorem Join.forall₂_of_mapM {nested : Text → Option Query} {runs : List JoinRun}
    (hwords : ∀ run ∈ runs, ∀ word ∈ run.words, word.IsWord) {joins : List Join}
    (h : (runs.map JoinRun.text).mapM (Join.parseWith nested) = .ok joins) :
    List.Forall₂ Join.IsReadFrom joins runs := by
  have hreads := List.forall₂_map_left_iff.1 (mapM_eq_ok_iff.1 h)
  refine ((List.forall₂_and_left runs joins).2 ⟨hwords, hreads⟩).flip.imp ?_
  rintro join run ⟨hrun, hjoin⟩
  obtain ⟨parts, hparts, hjoin⟩ := bind_eq_ok.1 hjoin
  rw [← pure_eq_ok.1 hjoin]
  exact JoinText.kind_of_read hrun hparts

private theorem kinds_eq_iff_of_forall₂ {joins : List Join} {runs : List JoinRun}
    (h : List.Forall₂ Join.IsReadFrom joins runs) :
    joins.map Join.kind = runs.map JoinRun.kind ↔
      ∀ run ∈ runs, run.kind = .inner → ¬run.SpellsLeftOuter := by
  induction h with
  | nil => simp
  | @cons join run joins runs hread _ ih =>
    have hkind : join.kind = run.kind ↔ (run.kind = .inner → ¬run.SpellsLeftOuter) := by
      rw [Join.IsReadFrom] at hread
      cases hjoin : join.kind <;> cases hrun : run.kind <;> simp_all
    rw [List.map_cons, List.map_cons, List.cons_eq_cons, hkind, ih, List.forall_mem_cons]

end Reading

namespace Query

private theorem joins_of_parseTo {levels : Nat} {statement : Text} {query : Query}
    (h : parseTo levels statement = .ok query) :
    ∃ nested clauses, ClauseTexts.read statement = .ok clauses ∧
      Join.parseListWith nested clauses.joins = .ok query.joins := by
  have hclauses {nested : Text → Option Query} (h : parseWith nested statement = .ok query) :
      ∃ clauses, ClauseTexts.read statement = .ok clauses ∧
        Join.parseListWith nested clauses.joins = .ok query.joins := by
    obtain ⟨clauses, hread, hquery⟩ := bind_eq_ok.1 h
    obtain ⟨joins, hjoins, hquery⟩ := bind_eq_ok.1 hquery
    rw [← pure_eq_ok.1 hquery]
    exact ⟨clauses, hread, hjoins⟩
  cases levels with
  | zero => exact ⟨_, hclauses h⟩
  | succ levels => exact ⟨_, hclauses h⟩

/-- A statement whose first switch to the joins is `INNER` or `LEFT` has one join for each `INNER`
and each `LEFT` that switches, in that order. The kinds are those of the switches exactly if no
`INNER` has a left outer join spelled out between it and the first `ON` behind it: the kind is
looked for in all of that text, so the one of a nested join is taken for it. -/
theorem joins_follow_switches {statement : Text} {query : Query}
    (hquery : Query.parse statement = .ok query)
    (hfirst : ∀ marked ∈ firstJoinSwitch? (markedWords statement),
      startsJoin marked.word = true) :
    query.joins.length = (joinKinds (markedWords statement)).length ∧
      (query.joins.map Join.kind = joinKinds (markedWords statement) ↔
        ∀ run ∈ (joinRuns (markedWords statement)).2, run.kind = .inner → ¬run.SpellsLeftOuter) := by
  have hpieces : ∀ word ∈ Text.words (Text.withoutComments statement), word.IsWord :=
    fun _ => Text.isWord_of_mem_words
  have hwords : ∀ run ∈ (joinRuns (markedWords statement)).2, ∀ word ∈ run.words, word.IsWord :=
    (isWord_of_mem_joinRuns fun marked hmem => hpieces _ (mem_of_mem_markWords hmem)).2
  obtain ⟨nested, clauses, hread, hjoins⟩ := joins_of_parseTo hquery
  have htext : clauses.joins = Text.unwords (clausePieces .joins (markedWords statement)) :=
    (ClauseTexts.ofMarked_eq_ok_iff.1 hread).2 .joins nofun
  have htexts : joinPieces clauses.joins =
      (joinRuns (markedWords statement)).2.map JoinRun.text := by
    have hcut : splitJoins 0 (joinWords (markedWords statement)) = _ :=
      splitJoins_eq_runs hpieces nofun hfirst
    rw [joinPieces, htext, Text.words_unwords_flatten, ← List.flatMap_def]
    rw [joinWords] at hcut
    rw [hcut, List.map_map]
    exact List.map_congr_left fun run _ => run.unwords_pieces
  rw [Join.parseListWith, htexts] at hjoins
  have hreads := Join.forall₂_of_mapM hwords hjoins
  rw [joinKinds_eq, List.length_map]
  exact ⟨hreads.length_eq, kinds_eq_iff_of_forall₂ hreads⟩

def nestedJoinStatement : Text :=
  ("SELECT * FROM t " ++
    "INNER JOIN (SELECT * FROM a LEFT OUTER JOIN b USING (i)) x ON x.i = t.i").toList

/-- The one join of the statement is read, but not as the inner join that it is. -/
theorem joins_follow_switches_not_of_nested_join :
    joinKinds (markedWords nestedJoinStatement) = [.inner] ∧
      ∃ query, Query.parse nestedJoinStatement = .ok query ∧ query.joins.length = 1 ∧
        query.joins.map Join.kind ≠ [.inner] := by
  have hkinds : joinKinds (markedWords nestedJoinStatement) = [.inner] := by decide
  have hquery : Query.parse nestedJoinStatement = .ok {
    selectsAll := true
    tables := [{ name := ['t'] }]
    joins := [⟨.leftOuter, { name := "INNER".toList, aliasName := some "JOIN".toList },
      { name := ['i'], table := some ['x'] }, { name := ['i'], table := some ['t'] }⟩] } := rfl
  have hruns : (joinRuns (markedWords nestedJoinStatement)).2 = [⟨.inner, Text.words
      "(SELECT * FROM a LEFT OUTER JOIN b USING (i)) x ON x.i = t.i".toList⟩] := by decide
  have hspells : JoinRun.SpellsLeftOuter ⟨.inner, Text.words
      "(SELECT * FROM a LEFT OUTER JOIN b USING (i)) x ON x.i = t.i".toList⟩ :=
    ⟨" (SELECT * FROM a LEFT OUTER JOIN b USING (i)) x".toList, "x.i = t.i".toList, by decide,
      " (select * from a ".toList, " b using (i)) x".toList, by decide⟩
  obtain ⟨hlength, hsame⟩ := joins_follow_switches hquery (by decide)
  rw [hkinds] at hlength hsame
  refine ⟨hkinds, _, hquery, hlength, ?_⟩
  intro hkind
  exact hsame.1 hkind _ (hruns ▸ List.mem_singleton_self _) rfl hspells

end Query

end SqlSelect
