import SqlSelect.Condition.Comparison

/-!
Changing a query part by part. Filters grow by `and` and `or`; a new condition joins the group that
is there if that has the same connective, and otherwise a new group is put around both.
-/

set_option autoImplicit false
set_option relaxedAutoImplicit false

namespace SqlSelect

def Condition.combine (connective : Connective) (added : Condition) : Option Condition → Condition
  | none => added
  | some (.group present members) =>
    if present = connective then .group connective (members ++ [added])
    else .group connective [.group present members, added]
  | some present => .group connective [present, added]

namespace Query

def withFields (query : Query) (fields : List Field) : Query :=
  { query with fields, selectsAll := false }

def addFields (query : Query) (fields : List Field) : Query :=
  { query with fields := query.fields ++ fields, selectsAll := false }

def withAllFields (query : Query) : Query := { query with fields := [], selectsAll := true }

def withTop (query : Query) (rows : UInt32) : Query := { query with top := some rows }

def withInto (query : Query) (name : Text) : Query := { query with into := some name }

def addTable (query : Query) (table : TableRef) : Query :=
  { query with tables := query.tables ++ [table] }

def addJoin (query : Query) (join : Join) : Query := { query with joins := query.joins ++ [join] }

def withFilter (query : Query) (condition : Condition) : Query :=
  { query with filter := some condition }

def addFilter (query : Query) (connective : Connective) (condition : Condition) : Query :=
  { query with filter := some (condition.combine connective query.filter) }

def andFilter (query : Query) (condition : Condition) : Query := query.addFilter .and condition

def orFilter (query : Query) (condition : Condition) : Query := query.addFilter .or condition

def whereIn (query : Query) (field : Field) (candidates : Candidates) : Query :=
  query.andFilter (.membership { field, candidates })

def whereNotIn (query : Query) (field : Field) (candidates : Candidates) : Query :=
  query.andFilter (.membership { field, candidates, negated := true })

def ignoringEmpty (query : Query) (ignoresEmpty : Bool) : Query := { query with ignoresEmpty }

def addGroups (query : Query) (fields : List Field) : Query :=
  { query with groups := query.groups ++ fields }

def withHaving (query : Query) (condition : Condition) : Query :=
  { query with having := some condition }

def addHaving (query : Query) (connective : Connective) (condition : Condition) : Query :=
  { query with having := some (condition.combine connective query.having) }

def andHaving (query : Query) (condition : Condition) : Query := query.addHaving .and condition

def orHaving (query : Query) (condition : Condition) : Query := query.addHaving .or condition

def addSort (query : Query) (key : SortKey) : Query := { query with sorts := query.sorts ++ [key] }

def addDescending (query : Query) (field : Field) : Query := query.addSort ⟨field, .descending⟩

def withoutSorts (query : Query) : Query := { query with sorts := [] }

def whereValue (query : Query) (comparator : Comparator) (field : Field) (value : Value) : Query :=
  query.andFilter (.comparison (.ofValue field comparator value))

def orWhereValue (query : Query) (comparator : Comparator) (field : Field) (value : Value) : Query :=
  query.orFilter (.comparison (.ofValue field comparator value))

def havingValue (query : Query) (comparator : Comparator) (field : Field) (value : Value) : Query :=
  query.andHaving (.comparison (.ofValue field comparator value))

end Query

inductive ListChange (α : Type) where
  | clear
  | dropLast
  | reverse
  | push (part : α)

def ListChange.apply {α : Type} : ListChange α → List α → List α
  | .clear, _ => []
  | .dropLast, parts => parts.dropLast
  | .reverse, parts => parts.reverse
  | .push part, parts => parts ++ [part]

inductive FilterChange where
  | clear
  | replace (condition : Condition)
  | flip

def FilterChange.apply : FilterChange → Option Condition → Option Condition
  | .clear, _ => none
  | .replace condition, _ => some condition
  | .flip, some (.group connective members) => some (.group connective.flip members)
  | .flip, present => present

end SqlSelect
