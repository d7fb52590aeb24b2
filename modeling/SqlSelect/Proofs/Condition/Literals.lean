import SqlSelect.Condition.Comparison
import SqlSelect.Proofs.Query.Written
import SqlSelect.Proofs.Text.Lexing
import SqlSelect.Proofs.Value.NumberText

/-!
Conditions made from values. Every text among the values is written as one literal that reads back
as the text, or as a pattern of it behind `LIKE`. Main statement: two conditions that differ only
in what their texts hold are the same outside literals.
-/

set_option autoImplicit false
set_option relaxedAutoImplicit false

namespace SqlSelect

/-- A condition as it is made from values, parameters and lists of values. -/
inductive ValueCondition where
  | compare (field : Field) (comparator : Comparator) (value : Value)
  | parameter (field : Field) (comparator : Comparator) (name : Text)
  | isIn (field : Field) (values : Bundle Value) (negated : Bool)
  | group (connective : Connective) (members : List ValueCondition)

/-- The value with nothing in it, if it is a text. -/
def Value.blanked : Value → Value
  | .text _ => .text []
  | value => value

def Bundle.blanked : Bundle Value → Bundle Value
  | .none => .none
  | .one value => .one value.blanked
  | .many values => .many (values.map Value.blanked)

def Field.isQuoteFree (field : Field) : Bool :=
  !field.name.contains '\'' && !(field.table.getD []).contains '\'' && field.nested.isNone

namespace ValueCondition

mutual

def condition : ValueCondition → Condition
  | .compare field comparator value => .comparison (.ofValue field comparator value)
  | .parameter field comparator name => .comparison (.ofParameter field comparator name)
  | .isIn field values negated => .membership { field, candidates := .values values, negated }
  | .group connective members => .group connective (conditions members)
termination_by structural source => source

def conditions : List ValueCondition → List Condition
  | [] => []
  | member :: rest => member.condition :: conditions rest
termination_by structural members => members

end

mutual

def blanked : ValueCondition → ValueCondition
  | .compare field comparator value => .compare field comparator value.blanked
  | .parameter field comparator name => .parameter field comparator name
  | .isIn field values negated => .isIn field values.blanked negated
  | .group connective members => .group connective (blankedAll members)
termination_by structural source => source

def blankedAll : List ValueCondition → List ValueCondition
  | [] => []
  | member :: rest => member.blanked :: blankedAll rest
termination_by structural members => members

end

mutual

/-- Whether no field and no name of a parameter holds a quote, and no field a nested query. -/
def isQuoteFree : ValueCondition → Bool
  | .compare field _ _ => field.isQuoteFree
  | .parameter field _ name => field.isQuoteFree && !name.contains '\''
  | .isIn field _ _ => field.isQuoteFree
  | .group _ members => areQuoteFree members
termination_by structural source => source

def areQuoteFree : List ValueCondition → Bool
  | [] => true
  | member :: rest => member.isQuoteFree && areQuoteFree rest
termination_by structural members => members

end

end ValueCondition

/-- What a literal comes from: a text, taken as a pattern or as it is, or the written form of
another value that is taken as a pattern. -/
inductive LiteralSource where
  | text (isPattern : Bool) (content : Text)
  | other (written : Text)
deriving DecidableEq

namespace LiteralSource

/-- A pattern is wrapped into two `%` unless there is one in it already. -/
def pattern (content : Text) : Text :=
  if content.contains '%' then content else '%' :: content ++ ['%']

def value : LiteralSource → Text
  | .text isPattern content => if isPattern then pattern content else content
  | .other written => pattern written

def blanked : LiteralSource → LiteralSource
  | .text isPattern _ => .text isPattern []
  | .other written => .other written

/-- The source of the literal that a compared value is written as; a number is one behind `LIKE`
only. -/
def ofCompared? (comparator : Comparator) (value : Value) : Option LiteralSource :=
  match value.plain? with
  | some (content, true) => some (.text (comparator == .like) content)
  | some (written, false) => if comparator = .like then some (.other written) else none
  | none => none

end LiteralSource

namespace ValueCondition

mutual

/-- The sources of the literals of a condition, from left to right. -/
def sources : ValueCondition → List LiteralSource
  | .compare _ comparator value => (LiteralSource.ofCompared? comparator value).toList
  | .parameter _ _ _ => []
  | .isIn _ values _ => (values.toList.filterMap Value.text?).map (.text false)
  | .group _ members => sourcesOf members
termination_by structural source => source

def sourcesOf : List ValueCondition → List LiteralSource
  | [] => []
  | member :: rest => member.sources ++ sourcesOf rest
termination_by structural members => members

end

end ValueCondition

namespace Text

/-- Two texts that are the same outside literals; the literals of the first have the given
values. -/
def AgreesOutside (left right : Text) (values : List Text) : Prop :=
  ∃ first second, ReadsAs left first ∧ ReadsAs right second ∧
    first.map Lexeme.plain? = second.map Lexeme.plain? ∧
      first.filterMap Lexeme.literal? = values

private theorem filterMap_literal?_plain (text : Text) :
    (text.map Lexeme.plain).filterMap Lexeme.literal? = [] := by
  induction text with
  | nil => rfl
  | cons c text ih => simp [Lexeme.literal?]

private theorem agreesOutside_plain {text : Text} (h : '\'' ∉ text) : AgreesOutside text text [] :=
  ⟨_, _, readsAs_plain h, readsAs_plain h, rfl, filterMap_literal?_plain text⟩

private theorem agreesOutside_quoted (left right : Text) :
    AgreesOutside (quoted left) (quoted right) [left] :=
  ⟨_, _, readsAs_quoted left, readsAs_quoted right, rfl, rfl⟩

private theorem AgreesOutside.append {left right left' right' : Text} {values values' : List Text}
    (h : AgreesOutside left right values) (h' : AgreesOutside left' right' values')
    (hleft : left'.head? ≠ some '\'') (hright : right'.head? ≠ some '\'') :
    AgreesOutside (left ++ left') (right ++ right') (values ++ values') := by
  obtain ⟨first, second, hfirst, hsecond, hplain, rfl⟩ := h
  obtain ⟨third, fourth, hthird, hfourth, hplain', rfl⟩ := h'
  refine ⟨first ++ third, second ++ fourth, hfirst.append hthird hleft,
    hsecond.append hfourth hright, ?_, List.filterMap_append⟩
  rw [List.map_append, List.map_append, hplain, hplain']

private theorem AgreesOutside.eq_nil {right : Text} {values : List Text}
    (h : AgreesOutside [] right values) : values = [] := by
  obtain ⟨first, second, hfirst, -, -, rfl⟩ := h
  have hnone : first = [] := by simpa [lexemes?] using hfirst.lexemes?_eq.symm
  rw [hnone]
  rfl

private theorem AgreesOutside.plain_append {left right front : Text} {values : List Text}
    (hfront : '\'' ∉ front) (h : AgreesOutside left right values) :
    AgreesOutside (front ++ left) (front ++ right) values := by
  obtain ⟨first, second, hfirst, hsecond, hplain, rfl⟩ := h
  refine ⟨_, _, hfirst.plain_append hfront, hsecond.plain_append hfront, ?_, ?_⟩
  · rw [List.map_append, List.map_append, hplain]
  · rw [List.filterMap_append, filterMap_literal?_plain, List.nil_append]

private theorem head?_ne_of_notMem {text : Text} (h : '\'' ∉ text) : text.head? ≠ some '\'' :=
  fun hhead => h (List.mem_of_head? hhead)

private theorem AgreesOutside.append_plain {left right back : Text} {values : List Text}
    (h : AgreesOutside left right values) (hback : '\'' ∉ back) :
    AgreesOutside (left ++ back) (right ++ back) values := by
  have hhead := head?_ne_of_notMem hback
  simpa using h.append (agreesOutside_plain hback) hhead hhead

private inductive AgreeOutside : List Text → List Text → List Text → Prop
  | nil : AgreeOutside [] [] []
  | cons {left right : Text} {lefts rights values values' : List Text} :
      AgreesOutside left right values → AgreeOutside lefts rights values' →
      AgreeOutside (left :: lefts) (right :: rights) (values ++ values')

private theorem AgreeOutside.joinWith {separator : Text} (hseparator : '\'' ∉ separator)
    (hne : separator ≠ []) {lefts rights values : List Text}
    (h : AgreeOutside lefts rights values) :
    AgreesOutside (joinWith separator lefts) (joinWith separator rights) values := by
  have hhead (text : Text) : (separator ++ text).head? ≠ some '\'' := by
    rw [List.head?_append_of_ne_nil _ hne]
    exact head?_ne_of_notMem hseparator
  induction h with
  | nil => exact agreesOutside_plain (by simp)
  | @cons left right lefts rights values values' hfirst hrest ih =>
    cases hrest with
    | nil => simpa using hfirst
    | cons hsecond hmore =>
      rw [joinWith_cons_cons, joinWith_cons_cons, List.append_assoc, List.append_assoc]
      exact hfirst.append (ih.plain_append hseparator) (hhead _) (hhead _)

private theorem AgreeOutside.joinWith_eq_nil_iff {lefts rights values : List Text}
    (h : AgreeOutside lefts rights values) (hfilled : ∀ text ∈ lefts ++ rights, text ≠ [])
    {separator : Text} :
    Text.joinWith separator lefts = [] ↔ Text.joinWith separator rights = [] := by
  cases h with
  | nil => rfl
  | @cons left right lefts rights values values' hfirst hrest =>
    have hleft : Text.joinWith separator (left :: lefts) ≠ [] :=
      joinWith_ne_nil List.mem_cons_self (hfilled left (by simp))
    have hright : Text.joinWith separator (right :: rights) ≠ [] :=
      joinWith_ne_nil List.mem_cons_self (hfilled right (by simp))
    simp [hleft, hright]

end Text

open Text (AgreesOutside AgreeOutside agreesOutside_plain agreesOutside_quoted)

private theorem Field.exists_sql_of_isQuoteFree {field : Field} (h : field.isQuoteFree = true) :
    ∃ name, field.sql true = .ok name ∧ '\'' ∉ name := by
  obtain ⟨name, table, aliasName, nested⟩ := field
  simp only [isQuoteFree, Bool.and_eq_true, Bool.not_eq_true', List.contains_eq_mem,
    decide_eq_false_iff_not, Option.isNone_iff_eq_none] at h
  obtain ⟨⟨hname, htable⟩, rfl⟩ := h
  have hwritten : (Field.mk name table aliasName none).sql true =
      .ok (qualifiedName true table name) := by
    simp only [Field.sql, Query.nestedSql, pure_bind, List.append_nil]
    rfl
  refine ⟨_, hwritten, ?_⟩
  cases table with
  | none => exact hname
  | some table =>
    cases table with
    | nil => exact hname
    | cons c rest =>
      rw [Option.getD_some] at htable
      intro hmem
      rcases List.mem_append.1 hmem with hfront | hback
      · exact htable hfront
      · rcases List.mem_cons.1 hback with hpoint | hback
        · exact absurd hpoint (by decide)
        · exact hname hback

private theorem Comparator.quote_notMem_sql (comparator : Comparator) : '\'' ∉ comparator.sql := by
  cases comparator <;> decide

namespace ValueCondition

private theorem quote_notMem_comparator (comparator : Comparator) :
    '\'' ∉ ' ' :: comparator.sql ++ [' '] := by
  cases comparator <;> decide

private theorem comparisonTail_text (comparator : Comparator) (content : Text) :
    comparisonTail (some comparator) (some content) true false =
      ' ' :: comparator.sql ++ [' '] ++
        Text.quoted (LiteralSource.text (comparator == .like) content).value := by
  cases comparator <;> simp [comparisonTail, comparedValue, LiteralSource.value,
    LiteralSource.pattern]

private theorem comparisonTail_other (comparator : Comparator) {content : Text} (h : content ≠ []) :
    comparisonTail (some comparator) (some content) false false =
      ' ' :: comparator.sql ++ [' '] ++
        if comparator = .like then Text.quoted (LiteralSource.other content).value else content := by
  obtain ⟨c, rest, rfl⟩ := List.exists_cons_of_ne_nil h
  cases comparator <;> simp [comparisonTail, comparedValue, hasContent, LiteralSource.value,
    LiteralSource.pattern]

private theorem quote_notMem_nullTest (comparator : Comparator) :
    '\'' ∉ nullTest (some comparator) := by
  cases comparator <;> decide

def valueTail (comparator : Comparator) (value : Value) : Text :=
  match value.plain? with
  | some (content, isText) => comparisonTail (some comparator) (some content) isText false
  | none => nullTest (some comparator)

theorem sql_ofValue {field : Field} {name : Text} (h : field.sql true = .ok name)
    (comparator : Comparator) (value : Value) :
    (Condition.comparison (.ofValue field comparator value)).sql false =
      .ok (name ++ valueTail comparator value) := by
  rw [Comparison.ofValue, valueTail]
  cases value.plain? with
  | none => simp [Condition.sql, Comparison.sql, h, bind, Except.bind, pure, Except.pure,
      comparisonTail, hasContent]
  | some plain =>
    simp [Condition.sql, Comparison.sql, h, bind, Except.bind, pure, Except.pure]

private theorem valueTail_agrees (comparator : Comparator) (value : Value) :
    AgreesOutside (valueTail comparator value) (valueTail comparator value.blanked)
      ((LiteralSource.ofCompared? comparator value).toList.map LiteralSource.value) := by
  have hfront := quote_notMem_comparator comparator
  cases htext : value.text? with
  | some content =>
    obtain rfl : value = .text content := by
      cases value <;> simp_all [Value.text?]
    simp only [valueTail, Value.plain?, Value.blanked, comparisonTail_text,
      LiteralSource.ofCompared?]
    exact (agreesOutside_quoted _ _).plain_append hfront
  | none =>
    have hsame : value.blanked = value := by
      cases value <;> first | rfl | simp [Value.text?] at htext
    rw [hsame, valueTail, LiteralSource.ofCompared?]
    cases hplain : value.plain? with
    | none => exact agreesOutside_plain (quote_notMem_nullTest comparator)
    | some plain =>
      obtain ⟨written, isText⟩ := plain
      cases isText with
      | true => cases value <;> simp_all [Value.plain?, Value.text?]
      | false =>
        have hbare := Value.isBare_of_plain? hplain
        simp only [comparisonTail_other comparator hbare.1]
        split
        · exact (agreesOutside_quoted _ _).plain_append hfront
        · exact (agreesOutside_plain hbare.2).plain_append hfront

private theorem value_sql_agrees (value : Value) :
    AgreesOutside value.sql value.blanked.sql value.text?.toList := by
  cases htext : value.text? with
  | some content =>
    obtain rfl : value = .text content := by
      cases value <;> simp_all [Value.text?]
    exact agreesOutside_quoted content []
  | none =>
    have hsame : value.blanked = value := by
      cases value <;> first | rfl | simp [Value.text?] at htext
    rw [hsame, Value.sql]
    cases hplain : value.plain? with
    | none => exact agreesOutside_plain (by decide)
    | some plain =>
      obtain ⟨written, isText⟩ := plain
      cases isText with
      | true => cases value <;> simp_all [Value.plain?, Value.text?]
      | false => exact agreesOutside_plain (Value.isBare_of_plain? hplain).2

private theorem values_sql_agree (values : List Value) :
    AgreeOutside (values.map Value.sql) ((values.map Value.blanked).map Value.sql)
      (values.filterMap Value.text?) := by
  induction values with
  | nil => exact .nil
  | cons value rest ih =>
    have hfirst := AgreeOutside.cons (value_sql_agrees value) ih
    rw [List.filterMap_cons]
    cases htext : value.text? with
    | none => simpa [htext] using hfirst
    | some content => simpa [htext] using hfirst

private theorem toList_blanked (values : Bundle Value) :
    values.blanked.toList = values.toList.map Value.blanked := by
  cases values <;> rfl

private theorem isEmpty_blanked (values : Bundle Value) :
    values.blanked.isEmpty = values.isEmpty := by
  rw [← Bundle.isEmpty_toList, toList_blanked, List.isEmpty_map, Bundle.isEmpty_toList]

private theorem bundle_sql_agrees (values : Bundle Value) :
    AgreesOutside values.sql values.blanked.sql (values.toList.filterMap Value.text?) := by
  rw [Bundle.sql, Bundle.sql, toList_blanked]
  exact (values_sql_agree values.toList).joinWith (by decide) (by decide)

/-- A condition and its blanked form are both written, or both leave nothing, and what is written
is the same outside literals. -/
private structure IsMasked (source : ValueCondition) (left right : Text) : Prop where
  written : source.condition.sql false = .ok left
  blanked : source.blanked.condition.sql false = .ok right
  agrees : AgreesOutside left right (source.sources.map LiteralSource.value)
  silent : left = [] ↔ right = []

private structure AreMasked (members : List ValueCondition) (lefts rights : List Text) : Prop where
  written : Condition.memberSqls false (conditions members) = .ok lefts
  blanked : Condition.memberSqls false (conditions (blankedAll members)) = .ok rights
  agree : AgreeOutside lefts rights ((sourcesOf members).map LiteralSource.value)
  filled : ∀ text ∈ lefts ++ rights, text ≠ []

private theorem valueTail_ne_nil (comparator : Comparator) (value : Value) :
    valueTail comparator value ≠ [] := by
  rw [valueTail]
  split
  · exact comparisonTail_ne_nil _ _ _ _
  · exact comparisonTail_ne_nil (some comparator) none false false

private theorem exists_isMasked_compare {field : Field} (h : field.isQuoteFree = true)
    (comparator : Comparator) (value : Value) :
    ∃ left right, IsMasked (.compare field comparator value) left right := by
  obtain ⟨name, hname, hquote⟩ := Field.exists_sql_of_isQuoteFree h
  refine ⟨_, _, sql_ofValue hname comparator value, sql_ofValue hname comparator value.blanked,
    ?_, ?_⟩
  · rw [sources]
    exact (valueTail_agrees comparator value).plain_append hquote
  · simp [valueTail_ne_nil]

private theorem quote_notMem_atName {name : Text} (h : '\'' ∉ name) : '\'' ∉ atName name := by
  unfold atName
  split
  · exact h
  · simp [h]

private theorem exists_isMasked_parameter {field : Field} {parameter : Text}
    (h : field.isQuoteFree = true) (hparameter : '\'' ∉ parameter) (comparator : Comparator) :
    ∃ left right, IsMasked (.parameter field comparator parameter) left right := by
  obtain ⟨name, hname, hquote⟩ := Field.exists_sql_of_isQuoteFree h
  have htail : '\'' ∉ comparisonTail (some comparator) (some (atName parameter)) false true := by
    rw [comparisonTail]
    split
    · exact quote_notMem_nullTest comparator
    · have hname := quote_notMem_atName hparameter
      have hsql := Comparator.quote_notMem_sql comparator
      simp [comparedValue, hname, hsql]
  have hwritten : (Condition.comparison (.ofParameter field comparator parameter)).sql false =
      .ok (name ++ comparisonTail (some comparator) (some (atName parameter)) false true) := by
    simp [Comparison.ofParameter, Condition.sql, Comparison.sql, hname, bind, Except.bind, pure,
      Except.pure]
  refine ⟨_, _, hwritten, hwritten, ?_, Iff.rfl⟩
  rw [sources]
  exact (agreesOutside_plain htail).plain_append hquote

private theorem exists_isMasked_isIn {field : Field} (h : field.isQuoteFree = true)
    (values : Bundle Value) (negated : Bool) :
    ∃ left right, IsMasked (.isIn field values negated) left right := by
  obtain ⟨name, hname, hquote⟩ := Field.exists_sql_of_isQuoteFree h
  have hphrase : '\'' ∉ if negated then Phrase.notIn else Phrase.isIn := by
    cases negated <;> decide
  by_cases hempty : values.isEmpty = true
  · have hsilent (bundle : Bundle Value) (hbundle : bundle.isEmpty = true) :
        (Condition.membership { field, candidates := .values bundle, negated }).sql false =
          .ok [] := by
      simp [Condition.sql, Membership.sql, Candidates.isEmpty, hbundle, pure, Except.pure]
    have hblanked := hsilent values.blanked (by rw [isEmpty_blanked, hempty])
    have hnone : values.toList = [] := by
      rwa [← Bundle.isEmpty_toList, List.isEmpty_iff] at hempty
    refine ⟨[], [], hsilent values hempty, hblanked, ?_, Iff.rfl⟩
    rw [sources, hnone]
    exact agreesOutside_plain (by simp)
  · have hspoken (bundle : Bundle Value) (hbundle : bundle.isEmpty = false) :
        (Condition.membership { field, candidates := .values bundle, negated }).sql false =
          .ok (name ++ (if negated then Phrase.notIn else Phrase.isIn) ++ (bundle.sql ++ [')'])) := by
      simp [Condition.sql, Membership.sql, Candidates.isEmpty, Candidates.sql, hbundle, hname, bind,
        Except.bind, pure, Except.pure]
    rw [Bool.not_eq_true] at hempty
    have hblanked := hspoken values.blanked (by rw [isEmpty_blanked, hempty])
    refine ⟨_, _, hspoken values hempty, hblanked, ?_, ?_⟩
    · have hvalues := (bundle_sql_agrees values).append_plain (show '\'' ∉ [')'] by decide)
      have hfront : '\'' ∉ name ++ if negated then Phrase.notIn else Phrase.isIn := by
        simp [hquote, hphrase]
      rw [sources, List.map_map]
      simpa [Function.comp_def, LiteralSource.value] using hvalues.plain_append hfront
    · simp

private theorem AreMasked.isMasked_group {members : List ValueCondition} {lefts rights : List Text}
    (h : AreMasked members lefts rights) (kind : Connective) :
    IsMasked (.group kind members) (Text.joinWith (' ' :: kind.sql ++ [' ']) lefts)
      (Text.joinWith (' ' :: kind.sql ++ [' ']) rights) where
  written := by
    rw [condition, Condition.sql_group_eq_ok]
    exact ⟨lefts, h.written, rfl⟩
  blanked := by
    rw [ValueCondition.blanked, condition, Condition.sql_group_eq_ok]
    exact ⟨rights, h.blanked, rfl⟩
  agrees := by
    rw [sources]
    exact h.agree.joinWith (by cases kind <;> decide) (by simp)
  silent := h.agree.joinWith_eq_nil_iff h.filled

private theorem length_conditions (members : List ValueCondition) :
    (conditions members).length = members.length := by
  induction members with
  | nil => rfl
  | cons member rest ih => rw [conditions, List.length_cons, List.length_cons, ih]

private theorem length_blankedAll (members : List ValueCondition) :
    (blankedAll members).length = members.length := by
  induction members with
  | nil => rfl
  | cons member rest ih => rw [blankedAll, List.length_cons, List.length_cons, ih]

private theorem isCompound_blanked (source : ValueCondition) :
    source.blanked.condition.isCompound = source.condition.isCompound := by
  cases source with
  | group kind members =>
    simp [blanked, condition, Condition.isCompound, length_conditions, length_blankedAll]
  | compare field comparator value => rfl
  | parameter field comparator name => rfl
  | isIn field values negated => rfl

private theorem IsMasked.enclose_agrees {source : ValueCondition} {left right : Text}
    (h : IsMasked source left right) :
    AgreesOutside (source.condition.enclose left) (source.blanked.condition.enclose right)
      (source.sources.map LiteralSource.value) := by
  have hopening : '\'' ∉ ['('] := by decide
  have hclosing : '\'' ∉ [')'] := by decide
  rw [Condition.enclose, Condition.enclose, isCompound_blanked]
  split
  · exact (h.agrees.append_plain hclosing).plain_append hopening
  · exact h.agrees

private theorem IsMasked.areMasked_cons {member : ValueCondition} {left right : Text}
    (h : IsMasked member left right) {rest : List ValueCondition} {lefts rights : List Text}
    (hrest : AreMasked rest lefts rights) :
    ∃ lefts rights, AreMasked (member :: rest) lefts rights := by
  have hwritten := Condition.memberSqls_cons_eq_ok.2 ⟨left, lefts, h.written, hrest.written, rfl⟩
  have hblanked := Condition.memberSqls_cons_eq_ok.2 ⟨right, rights, h.blanked, hrest.blanked, rfl⟩
  refine ⟨_, _, hwritten, hblanked, ?_, ?_⟩
  · by_cases hleft : left = []
    · have hnone : member.sources.map LiteralSource.value = [] := (hleft ▸ h.agrees).eq_nil
      simpa [hleft, h.silent.1 hleft, sourcesOf, hnone] using hrest.agree
    · have hright : right ≠ [] := fun hright => hleft (h.silent.2 hright)
      simpa [hleft, hright, sourcesOf] using AgreeOutside.cons h.enclose_agrees hrest.agree
  · have hfilled := hrest.filled
    by_cases hleft : left = []
    · simpa [hleft, h.silent.1 hleft] using hfilled
    · have hright : right ≠ [] := fun hright => hleft (h.silent.2 hright)
      have henclose (condition : Condition) {text : Text} (htext : text ≠ []) :
          condition.enclose text ≠ [] := by
        rw [Condition.enclose]
        split
        · simp
        · exact htext
      intro text hmem
      simp only [List.isEmpty_iff, hleft, hright, if_false, List.cons_append, List.mem_cons,
        List.mem_append] at hmem
      rcases hmem with rfl | hmem | rfl | hmem
      · exact henclose _ hleft
      · exact hfilled text (List.mem_append_left _ hmem)
      · exact henclose _ hright
      · exact hfilled text (List.mem_append_right _ hmem)

mutual

private theorem exists_isMasked (source : ValueCondition) (h : source.isQuoteFree = true) :
    ∃ left right, IsMasked source left right :=
  match source with
  | .compare field comparator value => exists_isMasked_compare h comparator value
  | .parameter field comparator name => by
    rw [isQuoteFree, Bool.and_eq_true] at h
    exact exists_isMasked_parameter h.1 (by simpa using h.2) comparator
  | .isIn field values negated => exists_isMasked_isIn h values negated
  | .group kind members => by
    obtain ⟨lefts, rights, hmembers⟩ := exists_areMasked members h
    exact ⟨_, _, hmembers.isMasked_group kind⟩
termination_by structural source

private theorem exists_areMasked (members : List ValueCondition) (h : areQuoteFree members = true) :
    ∃ lefts rights, AreMasked members lefts rights :=
  match members with
  | [] => ⟨[], [], rfl, rfl, .nil, by simp⟩
  | member :: rest => by
    rw [areQuoteFree, Bool.and_eq_true] at h
    obtain ⟨left, right, hmember⟩ := exists_isMasked member h.1
    obtain ⟨lefts, rights, hrest⟩ := exists_areMasked rest h.2
    exact hmember.areMasked_cons hrest
termination_by structural members

end

mutual

private theorem isQuoteFree_blanked (source : ValueCondition) :
    source.blanked.isQuoteFree = source.isQuoteFree :=
  match source with
  | .compare field comparator value => rfl
  | .parameter field comparator name => rfl
  | .isIn field values negated => rfl
  | .group kind members => by
    rw [blanked, isQuoteFree, isQuoteFree, areQuoteFree_blankedAll members]
termination_by structural source

private theorem areQuoteFree_blankedAll (members : List ValueCondition) :
    areQuoteFree (blankedAll members) = areQuoteFree members :=
  match members with
  | [] => rfl
  | member :: rest => by
    rw [blankedAll, areQuoteFree, areQuoteFree, isQuoteFree_blanked member,
      areQuoteFree_blankedAll rest]
termination_by structural members

end

private theorem ofCompared?_blanked (comparator : Comparator) (value : Value) :
    LiteralSource.ofCompared? comparator value.blanked =
      (LiteralSource.ofCompared? comparator value).map LiteralSource.blanked := by
  rw [LiteralSource.ofCompared?, LiteralSource.ofCompared?]
  cases value <;> simp [Value.blanked, Value.plain?, LiteralSource.blanked]

private theorem text?_blanked (value : Value) :
    value.blanked.text? = value.text?.map fun _ => [] := by
  cases value <;> rfl

private theorem filterMap_text?_blanked (values : List Value) :
    (values.map Value.blanked).filterMap Value.text? =
      (values.filterMap Value.text?).map fun _ => [] := by
  rw [List.filterMap_map, List.map_filterMap]
  exact congrArg (List.filterMap · values) (funext text?_blanked)

mutual

private theorem sources_blanked (source : ValueCondition) :
    source.blanked.sources = source.sources.map LiteralSource.blanked :=
  match source with
  | .compare field comparator value => by
    rw [blanked, sources, sources, ofCompared?_blanked]
    cases LiteralSource.ofCompared? comparator value <;> rfl
  | .parameter field comparator name => rfl
  | .isIn field values negated => by
    rw [blanked, sources, sources, toList_blanked, filterMap_text?_blanked, List.map_map,
      List.map_map]
    rfl
  | .group kind members => by
    rw [blanked, sources, sources, sourcesOf_blankedAll members]
termination_by structural source

private theorem sourcesOf_blankedAll (members : List ValueCondition) :
    sourcesOf (blankedAll members) = (sourcesOf members).map LiteralSource.blanked :=
  match members with
  | [] => rfl
  | member :: rest => by
    rw [blankedAll, sourcesOf, sourcesOf, sources_blanked member, sourcesOf_blankedAll rest,
      List.map_append]
termination_by structural members

end

/-- Texts cannot leave their literals. Two conditions that differ only in what their texts hold are
both written; what is written has the same characters outside literals and literals at the same
places; and every literal has the value of its source, be it a text or the same other value on both
sides. -/
theorem texts_stay_in_literals {first second : ValueCondition} (hquote : first.isQuoteFree = true)
    (hsame : first.blanked = second.blanked) :
    ∃ left right leftLexemes rightLexemes,
      first.condition.sql false = .ok left ∧ second.condition.sql false = .ok right ∧
      Text.lexemes? left = some leftLexemes ∧ Text.lexemes? right = some rightLexemes ∧
      leftLexemes.map Lexeme.plain? = rightLexemes.map Lexeme.plain? ∧
      leftLexemes.filterMap Lexeme.literal? = first.sources.map LiteralSource.value ∧
      rightLexemes.filterMap Lexeme.literal? = second.sources.map LiteralSource.value ∧
      first.sources.map LiteralSource.blanked = second.sources.map LiteralSource.blanked := by
  have hquote' : second.isQuoteFree = true := by
    rw [← isQuoteFree_blanked, ← hsame, isQuoteFree_blanked, hquote]
  obtain ⟨left, masked, hleft⟩ := exists_isMasked first hquote
  obtain ⟨right, masked', hright⟩ := exists_isMasked second hquote'
  obtain rfl : masked = masked' := by
    have hmasked := hleft.blanked
    rw [hsame, hright.blanked] at hmasked
    exact (Except.ok.inj hmasked).symm
  obtain ⟨leftLexemes, gaps, hleftReads, hgaps, hleftPlain, hleftValues⟩ := hleft.agrees
  obtain ⟨rightLexemes, gaps', hrightReads, hgaps', hrightPlain, hrightValues⟩ := hright.agrees
  obtain rfl : gaps = gaps' := Option.some.inj (hgaps.lexemes?_eq.symm.trans hgaps'.lexemes?_eq)
  refine ⟨left, right, leftLexemes, rightLexemes, hleft.written, hright.written,
    hleftReads.lexemes?_eq, hrightReads.lexemes?_eq, hleftPlain.trans hrightPlain.symm,
    hleftValues, hrightValues, ?_⟩
  rw [← sources_blanked, hsame, sources_blanked]

/-- A pattern, two neighbours in a list and a number behind `LIKE`, with quotes at the ends of
their texts. -/
theorem texts_stay_in_literals_of_hostile_texts :
    let source (pattern front back : Text) : ValueCondition := .group .or
      [.compare { name := ['a'] } .like (.text pattern),
        .group .and [.isIn { name := ['b'] } (.many [.text front, .text back]) true,
          .compare { name := ['c'] } .like (.int32 7)]]
    ∃ left right, (source "' OR 1=1 --".toList "'".toList "x''".toList).condition.sql false =
        .ok left ∧ (source [] "é".toList ['\'']).condition.sql false = .ok right ∧
      ∃ leftLexemes rightLexemes,
        Text.lexemes? left = some leftLexemes ∧ Text.lexemes? right = some rightLexemes ∧
        leftLexemes.map Lexeme.plain? = rightLexemes.map Lexeme.plain? ∧
        leftLexemes.filterMap Lexeme.literal? =
          ["%' OR 1=1 --%".toList, "'".toList, "x''".toList, "%7%".toList] := by
  intro source
  have hquote : (source "' OR 1=1 --".toList "'".toList "x''".toList).isQuoteFree = true := by decide
  have hsame : (source "' OR 1=1 --".toList "'".toList "x''".toList).blanked =
      (source [] "é".toList ['\'']).blanked := rfl
  obtain ⟨left, right, leftLexemes, rightLexemes, hleft, hright, hleftReads, hrightReads, hplain,
    hvalues, -, -⟩ := texts_stay_in_literals hquote hsame
  refine ⟨left, right, hleft, hright, leftLexemes, rightLexemes, hleftReads, hrightReads, hplain,
    hvalues.trans ?_⟩
  rfl

end ValueCondition

end SqlSelect
