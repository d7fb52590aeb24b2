import SqlSelect.Error
import SqlSelect.Query.Basic
import SqlSelect.Query.Phrase

/-!
Writing fields, conditions and queries. Everything is written in the order in which it stands in
the statement, and the first query without a table or without a field to select is the failure.
A condition may write nothing; then the clause that holds it, or its place in a group, is left out.
-/

set_option autoImplicit false
set_option relaxedAutoImplicit false

namespace SqlSelect

def TableRef.sql (table : TableRef) : Text :=
  table.name ++ match table.aliasName with
    | some (c :: rest) => ' ' :: c :: rest
    | _ => []

def qualifiedName (withTable : Bool) (table : Option Text) (name : Text) : Text :=
  match withTable, table with
  | true, some (c :: rest) => c :: rest ++ '.' :: name
  | _, _ => name

def aliasSuffix : Option Text → Text
  | some (c :: rest) => Phrase.aliasName ++ c :: rest
  | _ => []

/-- Whether a comparison has a value other than the empty text. -/
def hasContent : Option Text → Bool
  | some (_ :: _) => true
  | _ => false

/-- What a comparison tests for when it has no value: null. -/
def nullTest : Option Comparator → Text
  | some .equal => Phrase.isNull
  | some .notEqual => Phrase.isNotNull
  | some comparator => ' ' :: comparator.sql ++ Phrase.null
  | none => Phrase.null

/-- A value as the comparator wants it: `LIKE` takes a pattern, and a pattern without a `%` is
wrapped into two of them. -/
def comparedValue (comparator : Option Comparator) (value : Text) (quoted parameter : Bool) : Text :=
  if parameter then value
  else match comparator with
    | some .like => Text.quoted (if value.contains '%' then value else '%' :: value ++ ['%'])
    | _ => if quoted then Text.quoted value else value

def comparisonTail (comparator : Option Comparator) (value : Option Text) (quoted parameter : Bool) :
    Text :=
  if !hasContent value && !quoted then nullTest comparator
  else
    (match comparator with
      | some comparator => ' ' :: comparator.sql
      | none => []) ++ ' ' :: comparedValue comparator (value.getD []) quoted parameter

/-- A member of a group as it is written in it: a compound member stands in parentheses. -/
def Condition.enclose (condition : Condition) (sql : Text) : Text :=
  if condition.isCompound then '(' :: sql ++ [')'] else sql

def clauseText (phrase content : Text) : Text := if content.isEmpty then [] else phrase ++ content

def topText : Option UInt32 → Text
  | some rows => Phrase.top ++ Text.ofNat rows.toNat ++ [' ']
  | none => []

/-- The name of a temporary table without blanks around it and without its leading `#`. -/
def bareTempName (name : Text) : Text := Text.dropLeading '#' (Text.trim name)

def intoText : Option Text → Text
  | some name => clauseText Phrase.into (bareTempName name)
  | none => []

def tablesText (tables : List TableRef) : Text :=
  Phrase.tables ++ Text.joinWith Phrase.comma (tables.map TableRef.sql)

def groupsText (groups : List Text) : Text :=
  if groups.isEmpty then [] else Phrase.groups ++ Text.joinWith Phrase.comma groups

def sortsText (sorts : List Text) : Text :=
  if sorts.isEmpty then [] else Phrase.sorts ++ Text.joinWith Phrase.comma sorts

def joinsText (joins : List Text) : Text := joins.flatMap (' ' :: ·)

/-- The failure of a query that cannot be written: no table comes before no field. -/
def completeness (tables : List TableRef) (selectsAll : Bool) (fields : List Field) :
    Except SqlError Unit :=
  if tables.isEmpty then .error .noTables
  else if !selectsAll && fields.isEmpty then .error .noFields
  else .ok ()

def Candidates.isEmpty : Candidates → Bool
  | .values bundle => bundle.isEmpty
  | .query _ => false

def starOr (selectsAll : Bool) (fields : Except SqlError (List Text)) :
    Except SqlError (List Text) :=
  if selectsAll then .ok [['*']] else fields

def entriesIf (wanted : Bool) (entries : Except SqlError (List Text)) :
    Except SqlError (List Text) :=
  if wanted then entries else .ok []

mutual

/-- A field as it stands in any clause but the projection. -/
def Field.sql (withTable : Bool) : Field → Except SqlError Text
  | ⟨name, table, _, nested⟩ => do
    let inner ← Query.nestedSql nested
    return qualifiedName withTable table name ++ inner
termination_by structural field => field

def Query.nestedSql : Option Query → Except SqlError Text
  | none => return []
  | some query => do
    let inner ← query.sql true
    return Phrase.nested ++ inner ++ [')']
termination_by structural query => query

def Field.sqls : List Field → Except SqlError (List Text)
  | [] => return []
  | field :: rest => do
    let first ← field.sql true
    let others ← Field.sqls rest
    return first :: others
termination_by structural fields => fields

def Field.selectSqls : List Field → Except SqlError (List Text)
  | [] => return []
  | field :: rest => do
    let first ← field.sql true
    let others ← Field.selectSqls rest
    return (first ++ aliasSuffix field.aliasName) :: others
termination_by structural fields => fields

/-- A comparison; nothing if empty values are ignored and it has none. -/
def Comparison.sql (ignoresEmpty : Bool) : Comparison → Except SqlError Text
  | ⟨field, comparator, value, quoted, parameter⟩ =>
    if ignoresEmpty && !hasContent value then return []
    else do
      let name ← field.sql true
      return name ++ comparisonTail comparator value quoted parameter
termination_by structural comparison => comparison

/-- The candidates of a membership test. A nested query is written without its order. -/
def Candidates.sql : Candidates → Except SqlError Text
  | .values bundle => return bundle.sql
  | .query nested => nested.sql false
termination_by structural candidates => candidates

/-- A membership test; nothing if there is no value to look for. -/
def Membership.sql : Membership → Except SqlError Text
  | ⟨field, candidates, negated⟩ =>
    if candidates.isEmpty then return []
    else do
      let name ← field.sql true
      let inner ← candidates.sql
      return name ++ (if negated then Phrase.notIn else Phrase.isIn) ++ inner ++ [')']
termination_by structural membership => membership

def Condition.sql (ignoresEmpty : Bool) : Condition → Except SqlError Text
  | .comparison comparison => comparison.sql ignoresEmpty
  | .raw text => return Text.trim text
  | .membership membership => membership.sql
  | .group connective members => do
    let texts ← Condition.memberSqls ignoresEmpty members
    return Text.joinWith (' ' :: connective.sql ++ [' ']) texts
termination_by structural condition => condition

def Condition.memberSqls (ignoresEmpty : Bool) : List Condition → Except SqlError (List Text)
  | [] => return []
  | member :: rest => do
    let first ← member.sql ignoresEmpty
    let others ← Condition.memberSqls ignoresEmpty rest
    return if first.isEmpty then others else member.enclose first :: others
termination_by structural members => members

def Condition.clauseSql (ignoresEmpty : Bool) (phrase : Text) : Option Condition →
    Except SqlError Text
  | none => return []
  | some condition => do
    let content ← condition.sql ignoresEmpty
    return clauseText phrase content
termination_by structural condition => condition

def Join.sql : Join → Except SqlError Text
  | ⟨kind, table, localField, foreignField⟩ => do
    let left ← localField.sql true
    let right ← foreignField.sql true
    return kind.sql ++ ' ' :: table.sql ++ Phrase.on ++ left ++ Phrase.equals ++ right
termination_by structural join => join

def Join.sqls : List Join → Except SqlError (List Text)
  | [] => return []
  | join :: rest => do
    let first ← join.sql
    let others ← Join.sqls rest
    return first :: others
termination_by structural joins => joins

def SortKey.sql (withTable : Bool) : SortKey → Except SqlError Text
  | ⟨field, direction⟩ => do
    let name ← field.sql withTable
    return name ++ ' ' :: direction.sql
termination_by structural key => key

def SortKey.sqls (withTable : Bool) : List SortKey → Except SqlError (List Text)
  | [] => return []
  | key :: rest => do
    let first ← key.sql withTable
    let others ← SortKey.sqls withTable rest
    return first :: others
termination_by structural keys => keys

/-- A statement, with or without its order. -/
def Query.sql (ordered : Bool) : Query → Except SqlError Text
  | ⟨fields, selectsAll, into, tables, joins, filter, groups, having, sorts, top, ignoresEmpty⟩ => do
    completeness tables selectsAll fields
    let projection ← starOr selectsAll (Field.selectSqls fields)
    let joinTexts ← Join.sqls joins
    let filterText ← Condition.clauseSql ignoresEmpty Phrase.filter filter
    let groupTexts ← Field.sqls groups
    let havingText ← Condition.clauseSql ignoresEmpty Phrase.having having
    let sortTexts ← entriesIf ordered (SortKey.sqls true sorts)
    return Phrase.select ++ topText top ++ Text.joinWith Phrase.comma projection ++
      intoText into ++ tablesText tables ++ joinsText joinTexts ++ filterText ++
      groupsText groupTexts ++ havingText ++ sortsText sortTexts
termination_by structural query => query

end

def Field.selectSql (field : Field) : Except SqlError Text := do
  let name ← field.sql true
  return name ++ aliasSuffix field.aliasName

namespace Query

def projectionSql (query : Query) : Except SqlError Text := do
  let fields ← starOr query.selectsAll (Field.selectSqls query.fields)
  return Text.joinWith Phrase.comma fields

def sourcesSql (query : Query) : Except SqlError Text := do
  let joins ← Join.sqls query.joins
  return tablesText query.tables ++ joinsText joins

def filterSql (ignoresEmpty : Bool) (query : Query) : Except SqlError Text :=
  Condition.clauseSql ignoresEmpty Phrase.filter query.filter

def sortsSql (withTable : Bool) (query : Query) : Except SqlError Text := do
  let sorts ← SortKey.sqls withTable query.sorts
  return Text.joinWith Phrase.comma sorts

def requireComplete (query : Query) : Except SqlError Unit :=
  completeness query.tables query.selectsAll query.fields

/-- A statement is made of its parts, and the first part that fails is its failure. -/
theorem sql_eq (ordered : Bool) (query : Query) : query.sql ordered = (do
    query.requireComplete
    let projection ← query.projectionSql
    let sources ← query.sourcesSql
    let filter ← query.filterSql query.ignoresEmpty
    let groups ← Field.sqls query.groups
    let having ← Condition.clauseSql query.ignoresEmpty Phrase.having query.having
    let sorts ← entriesIf ordered (SortKey.sqls true query.sorts)
    return Phrase.select ++ topText query.top ++ projection ++ intoText query.into ++ sources ++
      filter ++ groupsText groups ++ having ++ sortsText sorts) := by
  obtain ⟨fields, selectsAll, into, tables, joins, filter, groups, having, sorts, top, ignores⟩ :=
    query
  simp only [Query.sql, requireComplete, projectionSql, sourcesSql, filterSql, bind_assoc,
    pure_bind, List.append_assoc]

end Query

end SqlSelect
