import SqlSelect.Query.Comparator
import SqlSelect.Value.Bundle

/-!
A select statement as a value. Fields may hold a nested query and a condition may test membership
in one, so fields, conditions and queries are defined together, and so is their equality.
-/

set_option autoImplicit false
set_option relaxedAutoImplicit false

namespace SqlSelect

structure TableRef where
  name : Text
  aliasName : Option Text := none
deriving DecidableEq

mutual

/-- A column, or a function call kept as it was written, or a nested query under a name. -/
structure Field where
  name : Text
  table : Option Text := none
  aliasName : Option Text := none
  nested : Option Query := none

/-- A test of a field against a text. No value stands for null; no comparator is written if the
word read for it was not known. -/
structure Comparison where
  field : Field
  comparator : Option Comparator
  value : Option Text
  /-- The value is written as a literal. -/
  quoted : Bool := false
  /-- The value names a parameter and is written as it is. -/
  parameter : Bool := false

inductive Candidates where
  | values (bundle : Bundle Value)
  | query (nested : Query)

/-- `field IN (...)` or its negation. -/
structure Membership where
  field : Field
  candidates : Candidates
  negated : Bool := false

inductive Condition where
  | comparison (comparison : Comparison)
  | raw (text : Text)
  | membership (membership : Membership)
  | group (connective : Connective) (members : List Condition)

structure Join where
  kind : JoinKind := .inner
  table : TableRef
  localField : Field
  foreignField : Field

structure SortKey where
  field : Field
  direction : Direction := .ascending

structure Query where
  fields : List Field := []
  /-- The projection is `*`, whatever the fields are. -/
  selectsAll : Bool := false
  into : Option Text := none
  tables : List TableRef := []
  joins : List Join := []
  filter : Option Condition := none
  groups : List Field := []
  having : Option Condition := none
  sorts : List SortKey := []
  top : Option UInt32 := none
  /-- Comparisons without a value are left out of the filters. -/
  ignoresEmpty : Bool := false

end

mutual

def Field.decEq : (a b : Field) → Decidable (a = b)
  | ⟨name, table, aliasName, nested⟩, ⟨name', table', aliasName', nested'⟩ =>
    have := Query.decEqOption nested nested'
    decidable_of_iff (name = name' ∧ table = table' ∧ aliasName = aliasName' ∧ nested = nested')
      (by simp)
termination_by structural a => a

def Field.decEqList : (a b : List Field) → Decidable (a = b)
  | [], [] => .isTrue rfl
  | a :: as, b :: bs =>
    have := a.decEq b
    have := Field.decEqList as bs
    decidable_of_iff (a = b ∧ as = bs) (by simp)
  | [], _ :: _ => .isFalse nofun
  | _ :: _, [] => .isFalse nofun
termination_by structural a => a

def Comparison.decEq : (a b : Comparison) → Decidable (a = b)
  | ⟨field, comparator, value, quoted, parameter⟩,
      ⟨field', comparator', value', quoted', parameter'⟩ =>
    have := field.decEq field'
    decidable_of_iff (field = field' ∧ comparator = comparator' ∧ value = value' ∧
      quoted = quoted' ∧ parameter = parameter') (by simp)
termination_by structural a => a

def Candidates.decEq : (a b : Candidates) → Decidable (a = b)
  | .values a, .values b => decidable_of_iff (a = b) (by simp)
  | .query a, .query b =>
    have := a.decEq b
    decidable_of_iff (a = b) (by simp)
  | .values _, .query _ => .isFalse nofun
  | .query _, .values _ => .isFalse nofun
termination_by structural a => a

def Membership.decEq : (a b : Membership) → Decidable (a = b)
  | ⟨field, candidates, negated⟩, ⟨field', candidates', negated'⟩ =>
    have := field.decEq field'
    have := candidates.decEq candidates'
    decidable_of_iff (field = field' ∧ candidates = candidates' ∧ negated = negated') (by simp)
termination_by structural a => a

def Condition.decEq : (a b : Condition) → Decidable (a = b)
  | .comparison a, .comparison b =>
    have := a.decEq b
    decidable_of_iff (a = b) (by simp)
  | .raw a, .raw b => decidable_of_iff (a = b) (by simp)
  | .membership a, .membership b =>
    have := a.decEq b
    decidable_of_iff (a = b) (by simp)
  | .group connective members, .group connective' members' =>
    have := Condition.decEqList members members'
    decidable_of_iff (connective = connective' ∧ members = members') (by simp)
  | .comparison _, .raw _ => .isFalse nofun
  | .comparison _, .membership _ => .isFalse nofun
  | .comparison _, .group .. => .isFalse nofun
  | .raw _, .comparison _ => .isFalse nofun
  | .raw _, .membership _ => .isFalse nofun
  | .raw _, .group .. => .isFalse nofun
  | .membership _, .comparison _ => .isFalse nofun
  | .membership _, .raw _ => .isFalse nofun
  | .membership _, .group .. => .isFalse nofun
  | .group .., .comparison _ => .isFalse nofun
  | .group .., .raw _ => .isFalse nofun
  | .group .., .membership _ => .isFalse nofun
termination_by structural a => a

def Condition.decEqList : (a b : List Condition) → Decidable (a = b)
  | [], [] => .isTrue rfl
  | a :: as, b :: bs =>
    have := a.decEq b
    have := Condition.decEqList as bs
    decidable_of_iff (a = b ∧ as = bs) (by simp)
  | [], _ :: _ => .isFalse nofun
  | _ :: _, [] => .isFalse nofun
termination_by structural a => a

def Condition.decEqOption : (a b : Option Condition) → Decidable (a = b)
  | none, none => .isTrue rfl
  | some a, some b =>
    have := a.decEq b
    decidable_of_iff (a = b) (by simp)
  | none, some _ => .isFalse nofun
  | some _, none => .isFalse nofun
termination_by structural a => a

def Join.decEq : (a b : Join) → Decidable (a = b)
  | ⟨kind, table, localField, foreignField⟩, ⟨kind', table', localField', foreignField'⟩ =>
    have := localField.decEq localField'
    have := foreignField.decEq foreignField'
    decidable_of_iff (kind = kind' ∧ table = table' ∧ localField = localField' ∧
      foreignField = foreignField') (by simp)
termination_by structural a => a

def Join.decEqList : (a b : List Join) → Decidable (a = b)
  | [], [] => .isTrue rfl
  | a :: as, b :: bs =>
    have := a.decEq b
    have := Join.decEqList as bs
    decidable_of_iff (a = b ∧ as = bs) (by simp)
  | [], _ :: _ => .isFalse nofun
  | _ :: _, [] => .isFalse nofun
termination_by structural a => a

def SortKey.decEq : (a b : SortKey) → Decidable (a = b)
  | ⟨field, direction⟩, ⟨field', direction'⟩ =>
    have := field.decEq field'
    decidable_of_iff (field = field' ∧ direction = direction') (by simp)
termination_by structural a => a

def SortKey.decEqList : (a b : List SortKey) → Decidable (a = b)
  | [], [] => .isTrue rfl
  | a :: as, b :: bs =>
    have := a.decEq b
    have := SortKey.decEqList as bs
    decidable_of_iff (a = b ∧ as = bs) (by simp)
  | [], _ :: _ => .isFalse nofun
  | _ :: _, [] => .isFalse nofun
termination_by structural a => a

def Query.decEq : (a b : Query) → Decidable (a = b)
  | ⟨fields, selectsAll, into, tables, joins, filter, groups, having, sorts, top, ignoresEmpty⟩,
      ⟨fields', selectsAll', into', tables', joins', filter', groups', having', sorts', top',
        ignoresEmpty'⟩ =>
    have := Field.decEqList fields fields'
    have := Join.decEqList joins joins'
    have := Condition.decEqOption filter filter'
    have := Field.decEqList groups groups'
    have := Condition.decEqOption having having'
    have := SortKey.decEqList sorts sorts'
    decidable_of_iff (fields = fields' ∧ selectsAll = selectsAll' ∧ into = into' ∧
      tables = tables' ∧ joins = joins' ∧ filter = filter' ∧ groups = groups' ∧
      having = having' ∧ sorts = sorts' ∧ top = top' ∧ ignoresEmpty = ignoresEmpty') (by simp)
termination_by structural a => a

def Query.decEqOption : (a b : Option Query) → Decidable (a = b)
  | none, none => .isTrue rfl
  | some a, some b =>
    have := a.decEq b
    decidable_of_iff (a = b) (by simp)
  | none, some _ => .isFalse nofun
  | some _, none => .isFalse nofun
termination_by structural a => a

end

instance : DecidableEq Field := Field.decEq

instance : DecidableEq Comparison := Comparison.decEq

instance : DecidableEq Membership := Membership.decEq

instance : DecidableEq Condition := Condition.decEq

instance : DecidableEq Join := Join.decEq

instance : DecidableEq SortKey := SortKey.decEq

instance : DecidableEq Query := Query.decEq

def Query.empty : Query := {}

def Query.isComplete (query : Query) : Bool :=
  (query.selectsAll || !query.fields.isEmpty) && !query.tables.isEmpty

def Field.isFunction (field : Field) : Bool := field.name.contains '('

/-- Whether a condition is a group of at least two members. -/
def Condition.isCompound : Condition → Bool
  | .group _ members => decide (1 < members.length)
  | _ => false

end SqlSelect
