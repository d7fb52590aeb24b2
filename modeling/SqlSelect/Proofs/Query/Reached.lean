import SqlSelect.Query.Render

/-!
The queries that writing a query comes to, in the order in which it comes to them. Main statement:
writing succeeds if all of them are complete, and fails as the first one that is not.
-/

set_option autoImplicit false
set_option relaxedAutoImplicit false

namespace SqlSelect

mutual

def Field.reached : Field → List Query
  | ⟨_, _, _, nested⟩ => Query.reachedNested nested
termination_by structural field => field

def Query.reachedNested : Option Query → List Query
  | none => []
  | some query => query.reached true
termination_by structural query => query

def Field.reachedAll : List Field → List Query
  | [] => []
  | field :: rest => field.reached ++ Field.reachedAll rest
termination_by structural fields => fields

def Comparison.reached (ignoresEmpty : Bool) : Comparison → List Query
  | ⟨field, _, value, _, _⟩ => if ignoresEmpty && !hasContent value then [] else field.reached
termination_by structural comparison => comparison

/-- A query among the candidates is taken without its order. -/
def Candidates.reached : Candidates → List Query
  | .values _ => []
  | .query nested => nested.reached false
termination_by structural candidates => candidates

def Membership.reached : Membership → List Query
  | ⟨field, candidates, _⟩ =>
    if candidates.isEmpty then [] else field.reached ++ candidates.reached
termination_by structural membership => membership

def Condition.reached (ignoresEmpty : Bool) : Condition → List Query
  | .comparison comparison => comparison.reached ignoresEmpty
  | .raw _ => []
  | .membership membership => membership.reached
  | .group _ members => Condition.reachedAll ignoresEmpty members
termination_by structural condition => condition

def Condition.reachedAll (ignoresEmpty : Bool) : List Condition → List Query
  | [] => []
  | member :: rest => member.reached ignoresEmpty ++ Condition.reachedAll ignoresEmpty rest
termination_by structural members => members

def Condition.reachedClause (ignoresEmpty : Bool) : Option Condition → List Query
  | none => []
  | some condition => condition.reached ignoresEmpty
termination_by structural condition => condition

def Join.reached : Join → List Query
  | ⟨_, _, localField, foreignField⟩ => localField.reached ++ foreignField.reached
termination_by structural join => join

def Join.reachedAll : List Join → List Query
  | [] => []
  | join :: rest => join.reached ++ Join.reachedAll rest
termination_by structural joins => joins

def SortKey.reached : SortKey → List Query
  | ⟨field, _⟩ => field.reached
termination_by structural key => key

def SortKey.reachedAll : List SortKey → List Query
  | [] => []
  | key :: rest => key.reached ++ SortKey.reachedAll rest
termination_by structural keys => keys

/-- The query itself comes first, then what is reached in its parts. Fields that a star stands for
are left out. -/
def Query.reached (ordered : Bool) : Query → List Query
  | ⟨fields, selectsAll, into, tables, joins, filter, groups, having, sorts, top, ignoresEmpty⟩ =>
    ⟨fields, selectsAll, into, tables, joins, filter, groups, having, sorts, top, ignoresEmpty⟩ ::
      ((if selectsAll then [] else Field.reachedAll fields) ++ (Join.reachedAll joins ++
        (Condition.reachedClause ignoresEmpty filter ++ (Field.reachedAll groups ++
          (Condition.reachedClause ignoresEmpty having ++
            if ordered then SortKey.reachedAll sorts else [])))))
termination_by structural query => query

end

def Query.lacking (query : Query) : SqlError :=
  if query.tables.isEmpty then .noTables else .noFields

/-- Writing that fails as the first of the queries that is incomplete, and only then. -/
def IsSettledBy {α : Type} (queries : List Query) (written : Except SqlError α) : Prop :=
  (do let _ ← written) = forM queries Query.requireComplete

section Settling

variable {α β : Type} {queries others : List Query} {first : Except SqlError α}

private theorem isSettledBy_pure (a : α) : IsSettledBy [] (pure a : Except SqlError α) := rfl

private theorem IsSettledBy.bind {next : α → Except SqlError β} (h : IsSettledBy queries first)
    (hnext : ∀ a, IsSettledBy others (next a)) : IsSettledBy (queries ++ others) (first >>= next) := by
  rw [IsSettledBy] at h ⊢
  rw [List.forM_append, ← h]
  cases first with
  | error cause => rfl
  | ok a => exact hnext a

private theorem IsSettledBy.map (h : IsSettledBy queries first) (f : α → β) :
    IsSettledBy queries (do let a ← first; return f a) := by
  have hboth := h.bind fun a => isSettledBy_pure (f a)
  rwa [List.append_nil] at hboth

theorem isSettledBy_require (query : Query) : IsSettledBy [query] query.requireComplete := by
  rw [IsSettledBy, List.forM_cons, List.forM_nil]

theorem requireComplete_eq (query : Query) :
    query.requireComplete = if query.isComplete then .ok () else .error query.lacking := by
  rw [Query.requireComplete, completeness, Query.isComplete, Query.lacking]
  cases query.tables.isEmpty <;> cases query.selectsAll <;> cases query.fields.isEmpty <;> rfl

theorem forM_requireComplete (queries : List Query) : forM queries Query.requireComplete =
    match queries.find? (!·.isComplete) with
    | none => .ok ()
    | some query => .error query.lacking := by
  induction queries with
  | nil => rfl
  | cons query rest ih =>
    rw [List.forM_cons, requireComplete_eq, List.find?_cons, ih]
    cases query.isComplete <;> rfl

end Settling

mutual

theorem Field.isSettledBy (withTable : Bool) (field : Field) :
    IsSettledBy field.reached (field.sql withTable) :=
  match field with
  | ⟨name, table, _, nested⟩ => by
    rw [Field.sql, Field.reached]
    exact (Query.isSettledBy_nested nested).map _
termination_by structural field

private theorem Query.isSettledBy_nested (query : Option Query) :
    IsSettledBy (Query.reachedNested query) (Query.nestedSql query) :=
  match query with
  | none => isSettledBy_pure _
  | some query => by
    rw [Query.nestedSql, Query.reachedNested]
    exact (Query.isSettledBy true query).map _
termination_by structural query

private theorem Field.isSettledBy_sqls (fields : List Field) :
    IsSettledBy (Field.reachedAll fields) (Field.sqls fields) :=
  match fields with
  | [] => isSettledBy_pure _
  | field :: rest => by
    rw [Field.sqls, Field.reachedAll]
    exact (Field.isSettledBy true field).bind fun _ => (Field.isSettledBy_sqls rest).map _
termination_by structural fields

theorem Field.isSettledBy_selectSqls (fields : List Field) :
    IsSettledBy (Field.reachedAll fields) (Field.selectSqls fields) :=
  match fields with
  | [] => isSettledBy_pure _
  | field :: rest => by
    rw [Field.selectSqls, Field.reachedAll]
    exact (Field.isSettledBy true field).bind fun _ => (Field.isSettledBy_selectSqls rest).map _
termination_by structural fields

private theorem Comparison.isSettledBy (ignoresEmpty : Bool) (comparison : Comparison) :
    IsSettledBy (comparison.reached ignoresEmpty) (comparison.sql ignoresEmpty) :=
  match comparison with
  | ⟨field, comparator, value, quoted, parameter⟩ => by
    rw [Comparison.sql, Comparison.reached]
    split
    · exact isSettledBy_pure _
    · exact (Field.isSettledBy true field).map _
termination_by structural comparison

private theorem Candidates.isSettledBy (candidates : Candidates) :
    IsSettledBy candidates.reached candidates.sql :=
  match candidates with
  | .values _ => isSettledBy_pure _
  | .query nested => by
    rw [Candidates.sql, Candidates.reached]
    exact Query.isSettledBy false nested
termination_by structural candidates

private theorem Membership.isSettledBy (membership : Membership) :
    IsSettledBy membership.reached membership.sql :=
  match membership with
  | ⟨field, candidates, negated⟩ => by
    rw [Membership.sql, Membership.reached]
    split
    · exact isSettledBy_pure _
    · exact (Field.isSettledBy true field).bind fun _ => (Candidates.isSettledBy candidates).map _
termination_by structural membership

private theorem Condition.isSettledBy (ignoresEmpty : Bool) (condition : Condition) :
    IsSettledBy (condition.reached ignoresEmpty) (condition.sql ignoresEmpty) :=
  match condition with
  | .comparison comparison => by
    rw [Condition.sql, Condition.reached]
    exact Comparison.isSettledBy ignoresEmpty comparison
  | .raw text => by
    rw [Condition.sql, Condition.reached]
    exact isSettledBy_pure _
  | .membership membership => by
    rw [Condition.sql, Condition.reached]
    exact Membership.isSettledBy membership
  | .group connective members => by
    rw [Condition.sql, Condition.reached]
    exact (Condition.isSettledBy_members ignoresEmpty members).map _
termination_by structural condition

private theorem Condition.isSettledBy_members (ignoresEmpty : Bool) (members : List Condition) :
    IsSettledBy (Condition.reachedAll ignoresEmpty members)
      (Condition.memberSqls ignoresEmpty members) :=
  match members with
  | [] => isSettledBy_pure _
  | member :: rest => by
    rw [Condition.memberSqls, Condition.reachedAll]
    exact (Condition.isSettledBy ignoresEmpty member).bind fun _ =>
      (Condition.isSettledBy_members ignoresEmpty rest).map _
termination_by structural members

theorem Condition.isSettledBy_clause (ignoresEmpty : Bool) (phrase : Text)
    (condition : Option Condition) :
    IsSettledBy (Condition.reachedClause ignoresEmpty condition)
      (Condition.clauseSql ignoresEmpty phrase condition) :=
  match condition with
  | none => isSettledBy_pure _
  | some condition => by
    rw [Condition.clauseSql, Condition.reachedClause]
    exact (Condition.isSettledBy ignoresEmpty condition).map _
termination_by structural condition

private theorem Join.isSettledBy (join : Join) : IsSettledBy join.reached join.sql :=
  match join with
  | ⟨kind, table, localField, foreignField⟩ => by
    rw [Join.sql, Join.reached]
    exact (Field.isSettledBy true localField).bind fun _ =>
      (Field.isSettledBy true foreignField).map _
termination_by structural join

theorem Join.isSettledBy_sqls (joins : List Join) :
    IsSettledBy (Join.reachedAll joins) (Join.sqls joins) :=
  match joins with
  | [] => isSettledBy_pure _
  | join :: rest => by
    rw [Join.sqls, Join.reachedAll]
    exact (Join.isSettledBy join).bind fun _ => (Join.isSettledBy_sqls rest).map _
termination_by structural joins

private theorem SortKey.isSettledBy (withTable : Bool) (key : SortKey) :
    IsSettledBy key.reached (key.sql withTable) :=
  match key with
  | ⟨field, direction⟩ => by
    rw [SortKey.sql, SortKey.reached]
    exact (Field.isSettledBy withTable field).map _
termination_by structural key

theorem SortKey.isSettledBy_sqls (withTable : Bool) (keys : List SortKey) :
    IsSettledBy (SortKey.reachedAll keys) (SortKey.sqls withTable keys) :=
  match keys with
  | [] => isSettledBy_pure _
  | key :: rest => by
    rw [SortKey.sqls, SortKey.reachedAll]
    exact (SortKey.isSettledBy withTable key).bind fun _ =>
      (SortKey.isSettledBy_sqls withTable rest).map _
termination_by structural keys

theorem Query.isSettledBy (ordered : Bool) (query : Query) :
    IsSettledBy (query.reached ordered) (query.sql ordered) :=
  match query with
  | ⟨fields, selectsAll, into, tables, joins, filter, groups, having, sorts, top, ignoresEmpty⟩ => by
    have hprojection : IsSettledBy (if selectsAll then [] else Field.reachedAll fields)
        (starOr selectsAll (Field.selectSqls fields)) := by
      cases selectsAll with
      | true => exact isSettledBy_pure _
      | false => exact Field.isSettledBy_selectSqls fields
    have hsorts : IsSettledBy (if ordered then SortKey.reachedAll sorts else [])
        (entriesIf ordered (SortKey.sqls true sorts)) := by
      cases ordered with
      | true => exact SortKey.isSettledBy_sqls true sorts
      | false => exact isSettledBy_pure _
    rw [Query.sql, Query.reached]
    refine IsSettledBy.bind (isSettledBy_require _) fun _ => ?_
    refine hprojection.bind fun _ => (Join.isSettledBy_sqls joins).bind fun _ => ?_
    refine (Condition.isSettledBy_clause ignoresEmpty _ filter).bind fun _ => ?_
    refine (Field.isSettledBy_sqls groups).bind fun _ => ?_
    refine (Condition.isSettledBy_clause ignoresEmpty _ having).bind fun _ => ?_
    exact hsorts.map _
termination_by structural query

end

end SqlSelect
