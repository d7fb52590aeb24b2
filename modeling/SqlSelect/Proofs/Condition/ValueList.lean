import SqlSelect.Condition.Membership
import SqlSelect.Proofs.Query.Identifiers
import SqlSelect.Proofs.Text.Spacing
import SqlSelect.Proofs.Value.NumberText
import Mathlib.Algebra.Order.BigOperators.Group.List
import Mathlib.Algebra.Order.Ring.Nat

/-!
Membership tests with a list of values, read from what they are written as. A list is cut at its
commas before the literals in it are looked at. Main statement: a list of nulls, integers and texts
comes back exactly if no text in it holds a comma; field and negation come back whenever the test
is read at all.
-/

set_option autoImplicit false
set_option relaxedAutoImplicit false

namespace SqlSelect

/-- A null, an integer of 64 bits, or a text whatever it holds. -/
inductive Value.IsListed : Value → Prop
  | null : IsListed .null
  | int64 (n : Int64) : IsListed (.int64 n)
  | text (content : Text) : IsListed (.text content)

/-- The entries that a list of values is read from: trimmed, and without the blank ones. -/
private def valueEntries (text : Text) : List Text :=
  ((text.splitOn ',').map Text.trim).filter (!·.isEmpty)

private theorem readValues?_eq (text : Text) :
    readValues? text =
      ((valueEntries text).mapM Value.read?).map fun values => values.foldl Bundle.push .none := rfl

private theorem valueEntries_nil : valueEntries [] = [] := by decide

private theorem valueEntries_append_comma (left right : Text) :
    valueEntries (left ++ ',' :: right) = valueEntries left ++ valueEntries right := by
  rw [valueEntries, List.splitOn_append_cons_self, List.map_append, List.filter_append]
  rfl

private theorem valueEntries_joinWith (texts : List Text) :
    valueEntries (Text.joinWith [','] texts) = texts.flatMap valueEntries := by
  induction texts with
  | nil => exact valueEntries_nil
  | cons text rest ih =>
    by_cases hrest : rest = []
    · simp [hrest]
    · rw [Text.joinWith_cons_of_ne_nil _ _ hrest, List.append_assoc, List.singleton_append,
        valueEntries_append_comma, ih, List.flatMap_cons]

private theorem valueEntries_of_isEdged {text : Text} (h : text.IsEdged) (hcomma : ',' ∉ text) :
    valueEntries text = [text] := by
  obtain ⟨c, back, hstart, -⟩ := h.head
  rw [valueEntries, List.splitOn_eq_singleton hcomma, List.map_singleton, h.trim_eq, hstart]
  rfl

private theorem valueEntries_ne_nil {text : Text} {c : Char} (hmem : c ∈ text)
    (hblank : isBlank c = false)
    (hcomma : c ≠ ',') : valueEntries text ≠ [] := by
  have hpieces : Text.joinWith [','] (text.splitOn ',') = text := List.intercalate_splitOn ','
  rw [← hpieces] at hmem
  obtain ⟨piece, hpiece, hc⟩ := Text.exists_mem_of_mem_joinWith hmem (by simpa using hcomma)
  have hfilled : Text.trim piece ≠ [] := by
    rw [Ne, Text.trim_eq_nil_iff, List.all_eq_true]
    intro hblanks
    rw [hblanks c hc] at hblank
    exact Bool.noConfusion hblank
  refine List.ne_nil_of_mem (List.mem_filter.2 ⟨List.mem_map_of_mem hpiece, ?_⟩)
  simpa using hfilled

private theorem two_le_length_valueEntries_quoted {content : Text} (h : ',' ∈ content) :
    2 ≤ (valueEntries (Text.quoted content)).length := by
  have hmem : ',' ∈ Text.doubleQuotes content := List.mem_flatMap.2 ⟨',', h, by decide⟩
  obtain ⟨front, back, hbody⟩ := List.append_of_mem hmem
  have hspelled : Text.quoted content = ('\'' :: front) ++ ',' :: (back ++ ['\'']) := by
    simp [Text.quoted, hbody]
  have hfront : '\'' ∈ '\'' :: front := List.mem_cons_self
  have hback : '\'' ∈ back ++ ['\''] := by simp
  have hleft := List.length_pos_iff.2 (valueEntries_ne_nil hfront (by decide) (by decide))
  have hright := List.length_pos_iff.2 (valueEntries_ne_nil hback (by decide) (by decide))
  rw [hspelled, valueEntries_append_comma, List.length_append]
  omega

private theorem Bundle.toList_foldl_push {α : Type} (bundle : Bundle α) (elements : List α) :
    (elements.foldl Bundle.push bundle).toList = bundle.toList ++ elements := by
  induction elements generalizing bundle with
  | nil => simp
  | cons element rest ih => simp [ih]

namespace Value

def hasComma (value : Value) : Bool := value.text?.any (·.contains ',')

namespace IsListed

variable {value : Value}

private theorem isEdged_sql (h : value.IsListed) : value.sql.IsEdged := by
  cases h with
  | null => exact Text.isEdged_enclosed "UL".toList (by decide) (by decide)
  | int64 n => exact (Text.isNumeric_ofInt n.toInt).isWord.isSpaced.isEdged
  | text content => exact Text.isEdged_enclosed _ (by decide) (by decide)

private theorem head_sql (h : value.IsListed) : ∀ c ∈ value.sql.head?, c.toLower ≠ 's' := by
  cases h with
  | null =>
    intro c hc
    obtain rfl : 'N' = c := Option.some.inj hc
    decide
  | int64 n =>
    rintro c hc hsmall
    have hnumber := (Text.isNumeric_ofInt n.toInt).2 c (List.mem_of_mem_head? hc)
    have hlower := Text.isNumberChar_toLower hnumber
    rw [hsmall] at hlower
    exact absurd hlower (by decide)
  | text content =>
    intro c hc
    obtain rfl := Option.some.inj hc
    decide

private theorem read?_sql (h : value.IsListed) : Value.read? value.sql = some value := by
  cases h with
  | null => decide
  | int64 n =>
    have hquote : '\'' ∉ Text.ofInt n.toInt := (Text.isNumeric_ofInt n.toInt).notMem (by decide)
    have hinside : Text.inside? '\'' '\'' (Text.ofInt n.toInt) = none := by
      refine Option.eq_none_iff_forall_ne_some.2 fun inner hinner => hquote ?_
      rw [Text.inside?_eq_some_iff.1 hinner]
      exact List.mem_cons_self
    have hsql : (Value.int64 n).sql = Text.ofInt n.toInt := rfl
    rw [hsql, Value.read?, hinside]
    simp only [Text.readInt64?_ofInt]
  | text content =>
    have hsql : (Value.text content).sql = '\'' :: Text.doubleQuotes content ++ ['\''] := rfl
    rw [Value.read?, hsql, Text.inside?_eq_some_iff.2 rfl]
    simp only [Text.mergeQuotes_doubleQuotes]

private theorem valueEntries_sql (h : value.IsListed) (hcomma : value.hasComma = false) :
    valueEntries value.sql = [value.sql] := by
  refine valueEntries_of_isEdged h.isEdged_sql ?_
  cases h with
  | null => decide
  | int64 n => exact (Text.isNumeric_ofInt n.toInt).notMem (by decide)
  | text content =>
    have hcontent : ',' ∉ content := by simpa [hasComma, text?] using hcomma
    have hsql : (Value.text content).sql = '\'' :: Text.doubleQuotes content ++ ['\''] := rfl
    rw [hsql, List.mem_append, List.mem_cons, List.mem_singleton]
    rintro ((hquote | hmem) | hquote)
    · exact absurd hquote (by decide)
    · obtain ⟨c, hc, hdoubled⟩ := List.mem_flatMap.1 hmem
      split at hdoubled
      · exact absurd hdoubled (by decide)
      · obtain rfl := List.mem_singleton.1 hdoubled
        exact hcontent hc
    · exact absurd hquote (by decide)

private theorem two_le_length_valueEntries_sql (h : value.IsListed)
    (hcomma : value.hasComma = true) :
    2 ≤ (valueEntries value.sql).length := by
  cases h with
  | null | int64 n => exact absurd hcomma (by simp [hasComma, text?])
  | text content =>
    have hcontent : ',' ∈ content := by simpa [hasComma, text?] using hcomma
    exact two_le_length_valueEntries_quoted hcontent

end IsListed

def listSql (values : List Value) : Text := Text.joinWith [','] (values.map Value.sql)

variable {values : List Value}

private theorem mapM_read?_map_sql (h : ∀ value ∈ values, value.IsListed) :
    (values.map Value.sql).mapM Value.read? = some values := by
  induction values with
  | nil => rfl
  | cons value rest ih =>
    obtain ⟨hvalue, hrest⟩ := List.forall_mem_cons.1 h
    rw [List.map_cons, List.mapM_cons, hvalue.read?_sql, ih hrest]
    rfl

private theorem length_of_mapM_read? {texts : List Text}
    (h : texts.mapM Value.read? = some values) :
    values.length = texts.length := by
  induction texts generalizing values with
  | nil =>
    obtain rfl : [] = values := Option.some.inj h
    rfl
  | cons text rest ih =>
    rw [List.mapM_cons] at h
    obtain ⟨value, -, h⟩ := Option.bind_eq_some_iff.1 h
    obtain ⟨others, hothers, h⟩ := Option.bind_eq_some_iff.1 h
    obtain rfl := Option.some.inj h
    rw [List.length_cons, List.length_cons, ih hothers]

private theorem valueEntries_listSql (h : ∀ value ∈ values, value.IsListed)
    (hcomma : ∀ value ∈ values, value.hasComma = false) :
    valueEntries (listSql values) = values.map Value.sql := by
  rw [listSql, valueEntries_joinWith, List.flatMap_map, List.map_eq_flatMap]
  exact List.flatMap_congr fun value hvalue =>
    (h value hvalue).valueEntries_sql (hcomma value hvalue)

private theorem length_lt_valueEntries_listSql (h : ∀ value ∈ values, value.IsListed)
    {value : Value}
    (hmem : value ∈ values) (hcomma : value.hasComma = true) :
    values.length < (valueEntries (listSql values)).length := by
  -- every value is an entry at least, so one with a comma leaves more entries than values
  have hone : ∀ other ∈ values, 1 ≤ (valueEntries other.sql).length := by
    intro other hother
    cases hsplit : other.hasComma with
    | false => simp [(h other hother).valueEntries_sql hsplit]
    | true => exact Nat.le_of_lt ((h other hother).two_le_length_valueEntries_sql hsplit)
  have htwo : ∃ other ∈ values, 1 < (valueEntries other.sql).length :=
    ⟨value, hmem, (h value hmem).two_le_length_valueEntries_sql hcomma⟩
  have hsum := List.sum_lt_sum (fun _ => 1) (fun other : Value => (valueEntries other.sql).length)
    hone htwo
  rw [listSql, valueEntries_joinWith, List.flatMap_map, List.length_flatMap]
  simpa using hsum

private theorem isEdged_listSql (h : ∀ value ∈ values, value.IsListed) (hne : values ≠ []) :
    (listSql values).IsEdged := by
  induction values with
  | nil => exact absurd rfl hne
  | cons value rest ih =>
    obtain ⟨hvalue, hothers⟩ := List.forall_mem_cons.1 h
    by_cases hrest : rest = []
    · simpa [listSql, hrest] using hvalue.isEdged_sql
    · have hback := ih hothers hrest
      rw [listSql, List.map_cons, Text.joinWith_cons_of_ne_nil _ _ (by simpa using hrest)]
      exact hvalue.isEdged_sql.append [','] hback

private theorem startsWith_select_listSql (h : ∀ value ∈ values, value.IsListed) :
    Text.startsWith "select".toList (listSql values) = false := by
  cases values with
  | nil => rfl
  | cons value rest =>
    have hvalue := h value List.mem_cons_self
    obtain ⟨c, back, hsql, -⟩ := hvalue.isEdged_sql.head
    have hhead : c.toLower ≠ 's'.toLower := hvalue.head_sql c (by simp [hsql])
    rw [listSql, List.map_cons, Text.joinWith_eq_flatMap, hsql]
    exact Text.startsWith_cons_eq_false hhead "elect".toList _

end Value

theorem Bundle.sql_eq_listSql (values : Bundle Value) : values.sql = Value.listSql values.toList :=
  rfl

private theorem readValues?_sql_iff {values : Bundle Value}
    (h : ∀ value ∈ values.toList, value.IsListed) :
    (∃ bundle, readValues? values.sql = some bundle ∧ bundle.toList = values.toList) ↔
      ∀ value ∈ values.toList, value.hasComma = false := by
  rw [Bundle.sql_eq_listSql, readValues?_eq]
  constructor
  · rintro ⟨bundle, hread, hsame⟩ value hmem
    obtain ⟨elements, helements, rfl⟩ := Option.map_eq_some_iff.1 hread
    rw [Bundle.toList_foldl_push] at hsame
    obtain rfl : elements = values.toList := hsame
    rw [Bool.eq_false_iff]
    intro hcomma
    have hlength := Value.length_of_mapM_read? helements
    have hmore := Value.length_lt_valueEntries_listSql h hmem hcomma
    omega
  · intro hcomma
    refine ⟨values.toList.foldl Bundle.push .none, ?_, Bundle.toList_foldl_push .none _⟩
    rw [Value.valueEntries_listSql h hcomma, Value.mapM_read?_map_sql h]
    rfl

namespace Membership

variable {field : Field}

private def frontText (field : Field) (negated : Bool) : Text :=
  field.identifierText ++ if negated then " NOT".toList else []

private def textWith (field : Field) (negated : Bool) (inner : Text) : Text :=
  frontText field negated ++ " IN ".toList ++ '(' :: inner ++ [')']

private theorem sql_of_values (h : field.IsIdentifier) {values : Bundle Value}
    (hne : values.toList ≠ [])
    (negated : Bool) :
    Membership.sql { field, candidates := .values values, negated } =
      .ok (textWith field negated values.sql) := by
  have hfilled : (Candidates.values values).isEmpty = false := by
    rw [Candidates.isEmpty, ← Bundle.isEmpty_toList]
    simpa using hne
  have hphrase : (if negated then Phrase.notIn else Phrase.isIn) =
      (if negated then " NOT".toList else []) ++ " IN ".toList ++ ['('] := by
    cases negated <;> decide
  rw [Membership.sql, hfilled, h.sql_eq, Candidates.sql, hphrase, textWith, frontText]
  simp only [Bool.false_eq_true, if_false, List.append_assoc]
  rfl

private theorem cutWord?_textWith (h : field.IsIdentifier) (negated : Bool) (inner : Text) :
    Text.cutWord? "in".toList (textWith field negated inner) =
      some (frontText field negated, '(' :: inner ++ [')']) := by
  -- no `IN` can begin in the front
  have hsame : Text.sameLetters (' ' :: "in".toList ++ [' ']) " IN ".toList = true := by decide
  have hfound := Text.cut?_append_of_sameLetters (by decide) hsame ('(' :: inner ++ [')'])
  have hnegation : Text.cut? (' ' :: "in".toList ++ [' '])
      ((if negated then " NOT".toList else []) ++ (" IN ".toList ++ ('(' :: inner ++ [')']))) =
        some (if negated then " NOT".toList else [], '(' :: inner ++ [')']) := by
    rw [Text.cut?_append_of_tails (by cases negated <;> decide), hfound, Option.map_some]
    simp only [List.append_nil]
  have hspelled : textWith field negated inner = field.identifierText ++
      ((if negated then " NOT".toList else []) ++ (" IN ".toList ++ ('(' :: inner ++ [')']))) := by
    simp only [textWith, frontText, List.append_assoc, List.cons_append]
  rw [hspelled, Text.cutWord?, List.cons_append, Text.cut?_append_of_not_isBlank h.isWord.2,
    ← List.cons_append, hnegation]
  rfl

private theorem takeNegation_frontText (h : field.IsIdentifier) (negated : Bool) :
    takeNegation (frontText field negated) = (field.identifierText, negated) := by
  have hedged := h.isWord.isSpaced.isEdged
  generalize hname : field.identifierText = name at hedged
  have hspace : ' ' ∉ name := hname ▸ h.notMem (by decide) (by decide)
  rw [takeNegation, frontText, hname]
  cases negated with
  | false =>
    have hmem : ' ' ∈ Text.foldCase " not".toList := by decide
    have hother : Text.sameLetters " not".toList (name.drop (name.length - 4)) = false := by
      refine Text.not_sameLetters_of_forall hmem fun c hc hlower => ?_
      obtain rfl : c = ' ' := Text.eq_of_toLower_eq (by decide) hlower
      exact hspace (List.mem_of_mem_drop hc)
    simp only [Bool.false_eq_true, if_false, List.append_nil, hedged.trim_eq, hother]
  | true =>
    have hback : Text.IsEdged (name ++ " NO".toList ++ ['T']) :=
      hedged.append " NO".toList ⟨⟨'T', [], rfl, by decide⟩, ⟨[], 'T', rfl, by decide⟩⟩
    have htrim : Text.trim (name ++ " NOT".toList) = name ++ " NOT".toList := by
      have hwhole := hback.trim_eq
      rwa [List.append_assoc] at hwhole
    have hlength : (name ++ " NOT".toList).length - 4 = name.length := by
      rw [List.length_append]
      exact Nat.add_sub_cancel name.length 4
    have hsame : Text.sameLetters " not".toList " NOT".toList = true := by decide
    simp only [if_true, htrim, hlength, List.drop_left, List.take_left, hsame]

private theorem parse_textWith (h : field.IsIdentifier) (negated : Bool) {inner : Text}
    (hinner : inner.IsEdged) :
    Membership.parse (textWith field negated inner) =
      (Candidates.read (textWith field negated inner) inner).map fun candidates =>
        { field, candidates, negated } := by
  have hback : Text.trim ('(' :: inner ++ [')']) = '(' :: inner ++ [')'] :=
    Text.trim_enclosed (by decide) (by decide)
  have hinside : Text.inside? '(' ')' ('(' :: inner ++ [')']) = some inner :=
    Text.inside?_eq_some_iff.2 rfl
  rw [Membership.parse, cutWord?_textWith h]
  simp only [takeNegation_frontText h, hback, hinside, Option.getD_some, hinner.trim_eq]
  rw [Field.parse, h.parseWith_eq]

private theorem parse_of_values (h : field.IsIdentifier) (negated : Bool) {values : Bundle Value}
    (hvalues : ∀ value ∈ values.toList, value.IsListed) (hne : values.toList ≠ []) :
    Membership.parse (textWith field negated values.sql) =
      match readValues? values.sql with
      | some bundle => .ok { field, candidates := .values bundle, negated }
      | none => .error (.invalidMembership (textWith field negated values.sql)) := by
  have hedged : values.sql.IsEdged := Value.isEdged_listSql hvalues hne
  have hselect : Text.startsWith "select".toList values.sql = false :=
    Value.startsWith_select_listSql hvalues
  rw [parse_textWith h negated hedged, Candidates.read, hselect]
  cases readValues? values.sql <;> rfl

/-- A membership test of a field that is an identifier, with nulls, integers and texts to look for,
is written. What is written can only be read as a test of that field with that negation, and it is
read with the same values in the same order exactly if no text among them holds a comma. -/
theorem values_parse_back_iff (h : field.IsIdentifier) (negated : Bool) {values : Bundle Value}
    (hvalues : ∀ value ∈ values.toList, value.IsListed) (hne : values.toList ≠ []) :
    ∃ text, Membership.sql { field, candidates := .values values, negated } = .ok text ∧
      (∀ read, Membership.parse text = .ok read → read.field = field ∧ read.negated = negated) ∧
      ((∃ bundle, Membership.parse text = .ok { field, candidates := .values bundle, negated } ∧
          bundle.toList = values.toList) ↔
        ∀ value ∈ values.toList, value.hasComma = false) := by
  have hparse := parse_of_values h negated hvalues hne
  refine ⟨_, sql_of_values h hne negated, fun read hread => ?_, ?_⟩
  · rw [hparse] at hread
    split at hread
    · obtain rfl := Except.ok.inj hread
      exact ⟨rfl, rfl⟩
    · cases hread
  · rw [← readValues?_sql_iff hvalues, hparse]
    refine exists_congr fun bundle => and_congr_left fun _ => ?_
    cases readValues? values.sql <;> simp

/-- With a comma between quotes in a text, other values come back than were written. -/
theorem values_parse_back_iff_of_quoted_comma :
    let field : Field := { name := "Code".toList, table := some "o".toList }
    let values := Bundle.many [.text "it's".toList, .null, .int64 (-3), .text "a','b".toList]
    field.IsIdentifier ∧ (∀ value ∈ values.toList, value.IsListed) ∧ values.toList ≠ [] ∧
      ∃ text, Membership.sql { field, candidates := .values values, negated := true } = .ok text ∧
        ¬∃ bundle,
          Membership.parse text = .ok { field, candidates := .values bundle, negated := true } ∧
            bundle.toList = values.toList := by
  intro field values
  have hfield : field.IsIdentifier := by decide
  have hvalues : ∀ value ∈ values.toList, value.IsListed := by
    simp only [values, Bundle.toList, List.forall_mem_cons]
    exact ⟨.text _, .null, .int64 _, .text _, by simp⟩
  have hne : values.toList ≠ [] := by decide
  obtain ⟨text, hsql, -, hread⟩ := values_parse_back_iff hfield true hvalues hne
  refine ⟨hfield, hvalues, hne, text, hsql, fun hback => ?_⟩
  exact absurd (hread.1 hback) (by decide)

end Membership

end SqlSelect
