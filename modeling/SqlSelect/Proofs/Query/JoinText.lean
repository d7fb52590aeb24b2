import SqlSelect.Proofs.Query.FieldText
import SqlSelect.Proofs.Text.FirstPlace
import SqlSelect.Proofs.Text.Splitting

/-!
Joins that are read back from what they are written as. Main statement: a run of joins is cut into
the joins it is made of, and the parts of each are found.
-/

set_option autoImplicit false
set_option relaxedAutoImplicit false

namespace SqlSelect

section Outcomes

variable {nested : Text → Option Query} {piece : Text}

theorem Join.parseWith_of_error {cause : SqlError}
    (h : JoinText.read piece = .error cause) : Join.parseWith nested piece = .error cause := by
  rw [Join.parseWith, h]
  rfl

theorem Join.parseWith_of_ok {parts : JoinText}
    (h : JoinText.read piece = .ok parts) :
    Join.parseWith nested piece = .ok (Join.ofTextWith nested parts) := by
  rw [Join.parseWith, h]
  rfl

end Outcomes

theorem JoinText.read_eq_ok_iff {text : Text} {parts : JoinText} :
    JoinText.read text = .ok parts ↔
      ∃ front back left right, Text.cutWord? "on".toList (Text.trim text) = some (front, back) ∧
        takeJoinKind? front = some (parts.kind, parts.table) ∧
        splitEquals 0 (Text.words back) = [left, right] ∧ left ≠ [] ∧ right ≠ [] ∧
        parts.localField = Text.unwords left ∧ parts.foreignField = Text.unwords right := by
  constructor
  · intro h
    simp only [JoinText.read] at h
    split at h
    · cases h
    · next front back hcut =>
      split at h
      · cases h
      · next kind table hkind =>
        split at h
        · next left lefts right rights hsides =>
          obtain rfl := Except.ok.inj h
          exact ⟨front, back, left :: lefts, right :: rights, hcut, hkind, hsides,
            List.cons_ne_nil left lefts, List.cons_ne_nil right rights, rfl, rfl⟩
        · cases h
  · rintro ⟨front, back, left, right, hcut, hkind, hsides, hleft, hright, hlocal, hforeign⟩
    obtain ⟨first, lefts, rfl⟩ := List.exists_cons_of_ne_nil hleft
    obtain ⟨second, rights, rfl⟩ := List.exists_cons_of_ne_nil hright
    obtain ⟨kind, table, localField, foreignField⟩ := parts
    obtain rfl := hlocal
    obtain rfl := hforeign
    simp only [JoinText.read, hcut, hkind, hsides]

theorem splitEquals_eq_splitWords (start : Int) (pieces : List Text) :
    splitEquals start pieces = Text.splitWords (· == ['=']) start pieces := by
  induction pieces generalizing start with
  | nil => rfl
  | cons word rest ih => simp only [splitEquals, Text.splitWords, ih, beq_iff_eq]

private theorem not_startsJoin {word : Text} (h : isClauseWord word = false) :
    startsJoin word = false := by
  rw [isClauseWord, List.any_eq_false] at h
  have hinner := h "inner".toList (by decide)
  have hleft := h "left".toList (by decide)
  rw [startsJoin]
  simp_all

theorem depth_of_isClauseWord {word : Text} (h : isClauseWord word = true) :
    Text.depth word = 0 := by
  have hnotMem {c : Char} (hc : ∀ keyword ∈ clauseWords, c.toLower ∉ Text.foldCase keyword) :
      c ∉ word := by
    intro hmem
    rw [isClauseWord_of_mem hmem hc] at h
    exact Bool.noConfusion h
  exact Text.depth_eq_zero_of_notMem (hnotMem (by decide)) (hnotMem (by decide))

theorem depth_of_startsJoin {word : Text} (h : startsJoin word = true) : Text.depth word = 0 := by
  apply depth_of_isClauseWord
  by_contra hother
  rw [not_startsJoin (Bool.eq_false_iff.2 hother)] at h
  exact Bool.noConfusion h

/-- A run of words in which no join begins but at its front. -/
private structure IsJoinRun (run : List Text) : Prop where
  begins : ∃ first rest, run = first :: rest ∧ startsJoin first = true ∧
    Text.freeOf startsJoin 0 rest = true
  closed : Text.depth run.flatten = 0

theorem splitJoins_cons {start : Int} {first next : Text} {rest piece : List Text}
    {pieces : List (List Text)}
    (h : splitJoins (start + Text.depth first) (next :: rest) = piece :: pieces) :
    splitJoins start (first :: next :: rest) =
      if start + Text.depth first = 0 ∧ startsJoin next = true then [first] :: piece :: pieces
      else (first :: piece) :: pieces := by
  unfold splitJoins
  simp only [h]

theorem splitJoins_ne_nil {start : Int} {first : Text} {rest : List Text} :
    splitJoins start (first :: rest) ≠ [] := by
  induction rest generalizing start first with
  | nil => simp [splitJoins]
  | cons next rest ih =>
    obtain ⟨piece, pieces, hsplit⟩ :=
      List.exists_cons_of_ne_nil (@ih (start + Text.depth first) next)
    rw [splitJoins_cons hsplit]
    split <;> simp

private theorem splitJoins_append {start : Int} {first : Text} {tail rest : List Text}
    (hfree : Text.freeOf startsJoin (start + Text.depth first) tail = true)
    (hclosed : start + Text.depth (first :: tail).flatten = 0)
    (hrest : ∀ next ∈ rest.head?, startsJoin next = true) :
    splitJoins start (first :: tail ++ rest) = (first :: tail) :: splitJoins 0 rest := by
  induction tail generalizing start first with
  | nil =>
    have hafter : start + Text.depth first = 0 := by simpa using hclosed
    cases rest with
    | nil => simp [splitJoins]
    | cons next rest =>
      obtain ⟨piece, pieces, hsplit⟩ := List.exists_cons_of_ne_nil (@splitJoins_ne_nil 0 next rest)
      have hbegins := hrest next rfl
      rw [List.singleton_append, splitJoins_cons (by rw [hafter, hsplit]),
        if_pos ⟨hafter, hbegins⟩, hsplit]
  | cons next tail ih =>
    rw [Text.freeOf, Bool.and_eq_true] at hfree
    have hclosed' : start + Text.depth first + Text.depth (next :: tail).flatten = 0 := by
      rw [List.flatten_cons, Text.depth_append] at hclosed
      omega
    have hsplit := ih hfree.2 hclosed'
    have hstays : ¬(start + Text.depth first = 0 ∧ startsJoin next = true) := by
      rintro ⟨hafter, hbegins⟩
      have hflat := depth_of_startsJoin hbegins
      have hnone := hfree.1
      rw [hafter, hflat, hbegins] at hnone
      exact absurd hnone (by decide)
    rw [List.cons_append] at hsplit
    rw [List.cons_append, List.cons_append, splitJoins_cons hsplit, if_neg hstays]

private theorem splitJoins_flatten {runs : List (List Text)} (h : ∀ run ∈ runs, IsJoinRun run) :
    splitJoins 0 runs.flatten = runs := by
  induction runs with
  | nil => rfl
  | cons run runs ih =>
    obtain ⟨⟨⟨first, tail, rfl, hbegins, hfree⟩, hclosed⟩, hothers⟩ := List.forall_mem_cons.1 h
    have hmore := ih hothers
    have hrest : ∀ next ∈ runs.flatten.head?, startsJoin next = true := by
      cases runs with
      | nil => simp
      | cons other runs =>
        obtain ⟨⟨second, rest, rfl, hsecond, -⟩, -⟩ := hothers other List.mem_cons_self
        simpa using hsecond
    have hflat := depth_of_startsJoin hbegins
    have hstart : (0 : Int) + Text.depth first = 0 := by omega
    rw [List.flatten_cons, splitJoins_append (by rwa [hstart]) (by omega) hrest, hmore]

namespace Field.IsOperand

variable {field : Field}

private theorem readsBack (h : field.IsOperand) (nested : Text → Option Query) :
    field.ReadsBack nested field.columnText := by
  rcases h with ⟨hcolumn, -⟩ | hcall
  · exact hcolumn.readsBack nested
  · exact hcall.readsBack nested

private theorem isEntry (h : field.IsOperand) :
    field.columnText.IsEntry := (h.readsBack fun _ => none).entry

private theorem aliasName_eq_none (h : field.IsOperand) : field.aliasName = none := by
  rcases h with ⟨-, halias⟩ | hcall
  · exact halias
  · rw [hcall.bare]

private theorem sql_eq (h : field.IsOperand) : field.sql true = .ok field.columnText := by
  have hnested : field.nested = none := by
    rcases h with ⟨hcolumn, -⟩ | hcall
    · exact hcolumn.nested
    · rw [hcall.bare]
  rw [sql_of_nested_eq_none hnested, columnText, h.aliasName_eq_none]
  exact congrArg Except.ok (List.append_nil _).symm

private theorem free_equals (h : field.IsOperand) :
    Text.freeOf (· == ['=']) 0 (Text.words field.columnText) = true := by
  rcases h with ⟨hcolumn, -⟩ | hcall
  · refine Text.freeOf_of_forall (fun word hword => ?_) 0
    rw [beq_eq_false_iff_ne]
    rintro rfl
    have hequals : '=' ∉ field.columnText := hcolumn.notMem (by decide) (by decide) (by decide)
    exact hequals (Text.mem_of_mem_words hword List.mem_cons_self)
  · obtain ⟨name, arguments, -, hchars, hnested, hspelled⟩ := hcall.call.spelled
    have hflat := Text.depth_eq_zero_of_nameChars hchars
    have hother (word : Text) (hclosing : ')' ∈ word) : (word == ['=']) = false := by
      rw [beq_eq_false_iff_ne]
      rintro rfl
      exact absurd hclosing (by decide)
    rw [hcall.columnText_eq, hspelled]
    exact Text.freeOf_call hother (fun c hc => isBlank_of_isNameChar (hchars c hc)) hflat hnested

end Field.IsOperand

/-- A join of a plain table by two columns or function calls. -/
structure Join.IsPlain (join : Join) : Prop where
  table : join.table.IsPlain
  localField : join.localField.IsOperand
  foreignField : join.foreignField.IsOperand

namespace Join

def predicateText (join : Join) : Text :=
  join.localField.columnText ++ ' ' :: ['='] ++ ' ' :: join.foreignField.columnText

def bodyText (join : Join) : Text :=
  join.table.sql ++ ' ' :: "ON".toList ++ ' ' :: join.predicateText

def text (join : Join) : Text := join.kind.sql ++ ' ' :: join.bodyText

namespace IsPlain

variable {join : Join}

private theorem sql_eq (h : join.IsPlain) : join.sql = .ok join.text := by
  obtain ⟨kind, table, localField, foreignField⟩ := join
  have hlocal := h.localField.sql_eq
  have hforeign := h.foreignField.sql_eq
  dsimp only at hlocal hforeign
  rw [Join.sql, hlocal, hforeign]
  simp [text, bodyText, predicateText, Phrase.on, Phrase.equals, bind, Except.bind, pure,
    Except.pure]

private theorem isClean_predicateText (h : join.IsPlain) : join.predicateText.IsClean := by
  have hequals : Text.IsEntry ['='] :=
    Text.isEntry_of_word (by decide) (by decide) (by decide)
  exact ((h.localField.isEntry.append_space hequals).append_space h.foreignField.isEntry).clean

theorem isClean_bodyText (h : join.IsPlain) : join.bodyText.IsClean := by
  have hon : Text.IsEntry "ON".toList :=
    Text.isEntry_of_word (by decide) (by decide) (by decide)
  exact (h.table.isEntry.append_space hon).clean.append_space h.isClean_predicateText

theorem isSpaced_kind (kind : JoinKind) : kind.sql.IsSpaced := by
  cases kind <;> exact ⟨by decide, by decide⟩

private theorem isSpaced_text (h : join.IsPlain) : join.text.IsSpaced :=
  (isSpaced_kind join.kind).append_space h.isClean_bodyText.tidy.spaced

private theorem isJoinRun (h : join.IsPlain) : IsJoinRun (Text.words join.text) := by
  have hbody := h.isClean_bodyText
  have hfree : Text.freeOf startsJoin 0 (Text.words join.bodyText) = true :=
    Text.freeOf_mono (fun _ => not_startsJoin) hbody.free
  have hdepth : Text.depth join.bodyText = 0 := hbody.tidy.nested.closed
  have hclosed : Text.depth join.text = 0 := by
    have hkind : Text.depth join.kind.sql = 0 := by cases join.kind <;> decide
    have hspace : Text.depth (' ' :: join.bodyText) = Text.depth join.bodyText := Int.zero_add _
    rw [text, Text.depth_append, hkind, hspace, hdepth]
    rfl
  refine ⟨?_, by rw [Text.depth_flatten_words, hclosed]⟩
  rw [text, Text.words_append_space]
  have hjoin : Text.freeOf startsJoin 0 ("JOIN".toList :: Text.words join.bodyText) = true := by
    rw [Text.freeOf, Bool.and_eq_true]
    exact ⟨by decide, hfree⟩
  cases join.kind with
  | inner => exact ⟨"INNER".toList, _, rfl, by decide, hjoin⟩
  | leftOuter =>
    refine ⟨"LEFT".toList, "OUTER".toList :: "JOIN".toList :: _, rfl, by decide, ?_⟩
    rw [Text.freeOf, Bool.and_eq_true]
    exact ⟨by decide, hjoin⟩

private theorem sameLetters_table (h : join.IsPlain) {keyword : Text}
    (hkeyword : keyword ∈ reservedWords) :
    ∀ word ∈ Text.words join.table.sql, Text.sameLetters keyword word = false := by
  intro word hword
  rw [h.table.words_sql, List.mem_cons, Option.mem_toList] at hword
  rcases hword with rfl | halias
  · exact h.table.name.unreserved keyword hkeyword
  · exact (h.table.aliasName word halias).unreserved keyword hkeyword

private theorem takeJoinKind?_eq (h : join.IsPlain) :
    takeJoinKind? (join.kind.sql ++ ' ' :: join.table.sql) = some (join.kind, join.table.sql) := by
  have htrim : Text.trim (' ' :: join.table.sql) = join.table.sql := by
    rw [Text.trim_cons_space, h.table.isEntry.clean.tidy.spaced.trim_eq]
  have houter := h.sameLetters_table (show "outer".toList ∈ reservedWords by decide)
  cases join.kind with
  | leftOuter =>
    rw [takeJoinKind?, Text.cut?_append (by decide)]
    simp only [List.nil_append, htrim]
  | inner =>
    have hnone : Text.cut? JoinKind.leftOuter.sql (JoinKind.inner.sql ++ ' ' :: join.table.sql) =
        none := by
      have hword : Text.IsWord "OUTER".toList := by decide
      have hkind : ∀ other ∈ Text.words JoinKind.inner.sql,
          Text.sameLetters "OUTER".toList other = false := by decide
      have hothers : ∀ other ∈ Text.words (JoinKind.inner.sql ++ ' ' :: join.table.sql),
          Text.sameLetters "OUTER".toList other = false := by
        intro other hother
        rw [Text.words_append_space] at hother
        rcases List.mem_append.1 hother with hother | hother
        · exact hkind other hother
        · exact houter other hother
      exact @Text.cut?_eq_none_of_words "LEFT".toList _ "JOIN".toList _ hword hothers
    rw [takeJoinKind?, hnone, Text.cut?_append (by decide)]
    simp only [List.nil_append, htrim, Option.map_some]

private theorem splitEquals_predicateText (h : join.IsPlain) :
    splitEquals 0 (Text.words join.predicateText) =
      [Text.words join.localField.columnText, Text.words join.foreignField.columnText] := by
  have hequals : Text.words ['='] = [['=']] := by decide
  have hdepth : 0 + Text.depth (Text.words join.localField.columnText).flatten +
      Text.depth ['='] = 0 := by
    rw [Text.depth_flatten_words, h.localField.isEntry.clean.tidy.nested.closed]
    rfl
  rw [predicateText, Text.words_append_space, Text.words_append_space, hequals,
    List.append_assoc, List.singleton_append, splitEquals_eq_splitWords,
    Text.splitWords_append_separator (by decide) hdepth,
    Text.splitWords_of_freeOf h.localField.free_equals,
    Text.splitWords_of_freeOf h.foreignField.free_equals]
  rfl

private theorem read_text (h : join.IsPlain) : JoinText.read join.text =
    .ok ⟨join.kind, join.table.sql, join.localField.columnText,
      join.foreignField.columnText⟩ := by
  have hfront : Text.IsSpaced (join.kind.sql ++ ' ' :: join.table.sql) :=
    (isSpaced_kind join.kind).append_space h.table.isEntry.clean.tidy.spaced
  have hback := h.isClean_predicateText.tidy.spaced
  have hspelled : join.text =
      (join.kind.sql ++ ' ' :: join.table.sql) ++ ' ' :: "ON".toList ++ ' ' :: join.predicateText := by
    simp [text, bodyText]
  have hon := h.sameLetters_table (show "on".toList ∈ reservedWords by decide)
  have hmiddle : ∀ other ∈ (Text.words (join.kind.sql ++ ' ' :: join.table.sql)).tail,
      Text.sameLetters "on".toList other = false := by
    have hkind : ∀ other ∈ Text.words join.kind.sql,
        Text.sameLetters "on".toList other = false := by
      cases join.kind <;> decide
    intro other hother
    have hmem := List.mem_of_mem_tail hother
    rw [Text.words_append_space] at hmem
    rcases List.mem_append.1 hmem with hmem | hmem
    · exact hkind other hmem
    · exact hon other hmem
  have hcut : Text.cutWord? "on".toList join.text =
      some (join.kind.sql ++ ' ' :: join.table.sql, join.predicateText) := by
    rw [hspelled]
    exact hfront.cutWord?_append hback (by decide) (by decide) (by decide) hmiddle
  refine JoinText.read_eq_ok_iff.2 ⟨_, _, _, _, ?_, h.takeJoinKind?_eq, h.splitEquals_predicateText,
    h.localField.isEntry.clean.tidy.spaced.words_ne_nil,
    h.foreignField.isEntry.clean.tidy.spaced.words_ne_nil,
    h.localField.isEntry.clean.tidy.spaced.spaced.symm,
    h.foreignField.isEntry.clean.tidy.spaced.spaced.symm⟩
  rw [h.isSpaced_text.trim_eq, hcut]

private theorem parseWith_text (h : join.IsPlain) (nested : Text → Option Query) :
    Join.parseWith nested join.text = .ok join := by
  have hlocal := (h.localField.readsBack nested).read
  have hforeign := (h.foreignField.readsBack nested).read
  have hparts : Join.ofTextWith nested ⟨join.kind, join.table.sql, join.localField.columnText,
      join.foreignField.columnText⟩ = join := by
    simp only [Join.ofTextWith, h.table.parse_sql, hlocal, hforeign]
    cases join
    rfl
  rw [Join.parseWith, h.read_text]
  exact congrArg Except.ok hparts

end IsPlain

variable {joins : List Join}

theorem sqls_eq (h : ∀ join ∈ joins, join.IsPlain) : Join.sqls joins = .ok (joins.map text) := by
  induction joins with
  | nil => rfl
  | cons join rest ih =>
    obtain ⟨hjoin, hothers⟩ := List.forall_mem_cons.1 h
    rw [Join.sqls, hjoin.sql_eq, ih hothers]
    rfl

private theorem joinPieces_eq (h : ∀ join ∈ joins, join.IsPlain) :
    joinPieces (Text.unwords (joins.map text)) = joins.map text := by
  have hruns : ∀ run ∈ joins.map fun join => Text.words join.text, IsJoinRun run := by
    intro run hrun
    obtain ⟨join, hjoin, rfl⟩ := List.mem_map.1 hrun
    exact (h join hjoin).isJoinRun
  have hspaced : ∀ join ∈ joins, Text.unwords (Text.words join.text) = join.text :=
    fun join hjoin => (h join hjoin).isSpaced_text.spaced
  rw [joinPieces, Text.words_unwords_flatten, List.map_map]
  have hcut := splitJoins_flatten hruns
  simp only [Function.comp_def]
  rw [hcut, List.map_map]
  exact List.map_congr_left hspaced

theorem parseListWith_eq (h : ∀ join ∈ joins, join.IsPlain) (nested : Text → Option Query) :
    Join.parseListWith nested (Text.unwords (joins.map text)) = .ok joins := by
  rw [Join.parseListWith, joinPieces_eq h]
  induction joins with
  | nil => rfl
  | cons join rest ih =>
    obtain ⟨hjoin, hothers⟩ := List.forall_mem_cons.1 h
    rw [List.map_cons, List.mapM_cons, hjoin.parseWith_text, ih hothers]
    rfl

end Join

end SqlSelect
