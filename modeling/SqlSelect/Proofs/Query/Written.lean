import SqlSelect.Query.Render

/-!
What a text that could be written is made of, for each part of a statement.
-/

set_option autoImplicit false
set_option relaxedAutoImplicit false

namespace SqlSelect

theorem bind_eq_ok {α β : Type} {first : Except SqlError α} {next : α → Except SqlError β} {b : β} :
    (first >>= next) = .ok b ↔ ∃ a, first = .ok a ∧ next a = .ok b := by
  cases first with
  | error cause => simp [bind, Except.bind]
  | ok a => simp [bind, Except.bind]

theorem pure_eq_ok {α : Type} {a b : α} : (pure a : Except SqlError α) = .ok b ↔ a = b := by
  simp [pure, Except.pure]

namespace Condition

variable {ignoresEmpty : Bool}

theorem sql_group_eq_ok {connective : Connective} {members : List Condition} {text : Text} :
    (Condition.group connective members).sql ignoresEmpty = .ok text ↔
      ∃ texts, memberSqls ignoresEmpty members = .ok texts ∧
        Text.joinWith (' ' :: connective.sql ++ [' ']) texts = text := by
  rw [Condition.sql, bind_eq_ok]
  simp only [pure_eq_ok]

theorem memberSqls_nil_eq_ok {texts : List Text} :
    memberSqls ignoresEmpty [] = .ok texts ↔ texts = [] := by
  rw [memberSqls, pure_eq_ok, eq_comm]

theorem memberSqls_cons_eq_ok {member : Condition} {rest : List Condition} {texts : List Text} :
    memberSqls ignoresEmpty (member :: rest) = .ok texts ↔
      ∃ first others, member.sql ignoresEmpty = .ok first ∧
        memberSqls ignoresEmpty rest = .ok others ∧
        (if first.isEmpty then others else member.enclose first :: others) = texts := by
  rw [memberSqls, bind_eq_ok]
  simp only [bind_eq_ok, pure_eq_ok]
  constructor
  · rintro ⟨first, hfirst, others, hothers, rfl⟩
    exact ⟨first, others, hfirst, hothers, rfl⟩
  · rintro ⟨first, others, hfirst, hothers, rfl⟩
    exact ⟨first, hfirst, others, hothers, rfl⟩

theorem clauseSql_of_sql {phrase text : Text} {condition : Condition}
    (h : condition.sql ignoresEmpty = .ok text) :
    clauseSql ignoresEmpty phrase (some condition) = .ok (clauseText phrase text) := by
  rw [clauseSql, h]
  rfl

end Condition

theorem Field.sql_eq_ok {withTable : Bool} {field : Field} {text : Text}
    (h : field.sql withTable = .ok text) :
    (field.nested = none ∧ text = qualifiedName withTable field.table field.name) ∨
      ∃ query inner, field.nested = some query ∧ query.sql true = .ok inner ∧
        text = qualifiedName withTable field.table field.name ++ Phrase.nested ++ inner ++ [')'] := by
  obtain ⟨name, table, aliasName, nested⟩ := field
  rw [Field.sql] at h
  obtain ⟨behind, hbehind, htext⟩ := bind_eq_ok.1 h
  cases nested with
  | none =>
    rw [Query.nestedSql, pure_eq_ok] at hbehind
    rw [← pure_eq_ok.1 htext, ← hbehind]
    exact .inl ⟨rfl, List.append_nil _⟩
  | some query =>
    rw [Query.nestedSql] at hbehind
    obtain ⟨inner, hinner, hbehind⟩ := bind_eq_ok.1 hbehind
    refine .inr ⟨query, inner, rfl, hinner, ?_⟩
    rw [← pure_eq_ok.1 htext, ← pure_eq_ok.1 hbehind]
    simp only [List.append_assoc]

theorem comparisonTail_ne_nil (comparator : Option Comparator) (value : Option Text)
    (quoted parameter : Bool) : comparisonTail comparator value quoted parameter ≠ [] := by
  unfold comparisonTail
  split
  · cases comparator with
    | none => decide
    | some comparator => cases comparator <;> decide
  · simp

theorem Comparison.sql_eq_ok {ignoresEmpty : Bool} {test : Comparison} {text : Text}
    (h : test.sql ignoresEmpty = .ok text) :
    (ignoresEmpty = true ∧ hasContent test.value = false ∧ text = []) ∨
      ((ignoresEmpty && !hasContent test.value) = false ∧ ∃ name, test.field.sql true = .ok name ∧
        text = name ++ comparisonTail test.comparator test.value test.quoted test.parameter) := by
  obtain ⟨field, comparator, value, quoted, parameter⟩ := test
  rw [Comparison.sql] at h
  split at h
  · next hsilent =>
    simp only [Bool.and_eq_true, Bool.not_eq_true'] at hsilent
    exact .inl ⟨hsilent.1, hsilent.2, (pure_eq_ok.1 h).symm⟩
  · next hspoken =>
    obtain ⟨name, hname, htext⟩ := bind_eq_ok.1 h
    exact .inr ⟨by simpa using hspoken, name, hname, (pure_eq_ok.1 htext).symm⟩

theorem Membership.sql_eq_ok {test : Membership} {text : Text} (h : test.sql = .ok text) :
    (test.candidates.isEmpty = true ∧ text = []) ∨
      (test.candidates.isEmpty = false ∧ ∃ name inner, test.field.sql true = .ok name ∧
        test.candidates.sql = .ok inner ∧
        text = name ++ (if test.negated then Phrase.notIn else Phrase.isIn) ++ inner ++ [')']) := by
  obtain ⟨field, candidates, negated⟩ := test
  rw [Membership.sql] at h
  split at h
  · next hempty => exact .inl ⟨hempty, (pure_eq_ok.1 h).symm⟩
  · next hfull =>
    obtain ⟨name, hname, hrest⟩ := bind_eq_ok.1 h
    obtain ⟨inner, hinner, htext⟩ := bind_eq_ok.1 hrest
    exact .inr ⟨by simpa using hfull, name, inner, hname, hinner, (pure_eq_ok.1 htext).symm⟩

end SqlSelect
