import SqlSelect.Query.Render

/-!
Writing piece by piece. Every piece goes straight to a sink, and writing that fails says so without
a cause: what a query was found to lack is left in a slot of the sink. What may turn out to be
nothing is captured first, in a sink of its own, and the slot of that sink is copied. A rendering
is the text that was written, or else what the slot holds, or else a failure of writing itself.
-/

set_option autoImplicit false
set_option relaxedAutoImplicit false

namespace SqlSelect

/-- What a statement is written to. -/
structure Sink where
  written : Text := []
  /-- Comparisons without a value are left out. -/
  ignoresEmpty : Bool := false
  /-- What a query was found to lack. -/
  failure : Option SqlError := none

/-- Writes to a sink. A failure has no cause of its own. -/
abbrev Writing (α : Type) : Type := OptionT (StateM Sink) α

inductive RenderError where
  /-- A query lacks a part. -/
  | lacking (cause : SqlError)
  /-- Writing failed, and nothing was found to be lacking. -/
  | format
deriving DecidableEq

namespace Writing

def put (text : Text) : Writing Unit := fun sink =>
  (some (), { sink with written := sink.written ++ text })

def fail (cause : SqlError) : Writing Unit := fun sink =>
  (none, { sink with failure := some cause })

def ignoresEmpty : Writing Bool := fun sink => (some sink.ignoresEmpty, sink)

/-- Writes to a sink of its own and returns the text. What was found to be lacking is copied. -/
def captureWith (ignoresEmpty : Bool) (writing : Writing Unit) : Writing Text := fun sink =>
  let (result, inner) := writing { ignoresEmpty }
  (result.map fun _ => inner.written, { sink with failure := inner.failure.or sink.failure })

def capture (writing : Writing Unit) : Writing Text := do
  captureWith (← ignoresEmpty) writing

def separate (separator : Text) (first : Bool) : Writing Unit :=
  if first then pure () else put separator

def clause (phrase content : Text) : Writing Unit :=
  if content.isEmpty then pure ()
  else do
    put phrase
    put content

def behind (phrase : Text) (wanted : Bool) (entries : Writing Unit) : Writing Unit :=
  if wanted then do
    put phrase
    entries
  else pure ()

def starOr (selectsAll : Bool) (fields : Writing Unit) : Writing Unit :=
  if selectsAll then put ['*'] else fields

def render (writing : Writing Unit) : Except RenderError Text :=
  match writing {} with
  | (_, { failure := some cause, .. }) => .error (.lacking cause)
  | (none, _) => .error .format
  | (some _, sink) => .ok sink.written

end Writing

open Writing

def requireParts (tables : List TableRef) (selectsAll : Bool) (fields : List Field) : Writing Unit :=
  if tables.isEmpty then fail .noTables
  else if !selectsAll && fields.isEmpty then fail .noFields
  else pure ()

def TableRef.write (table : TableRef) : Writing Unit := put table.sql

def TableRef.writeEach (first : Bool) : List TableRef → Writing Unit
  | [] => pure ()
  | table :: rest => do
    separate Phrase.comma first
    table.write
    TableRef.writeEach false rest

mutual

def Field.write (withTable : Bool) : Field → Writing Unit
  | ⟨name, table, _, nested⟩ => do
    put (qualifiedName withTable table name)
    Query.writeNested nested
termination_by structural field => field

/-- The nested query of a field is captured. -/
def Query.writeNested : Option Query → Writing Unit
  | none => pure ()
  | some query => do
    put Phrase.nested
    put (← capture (query.write true))
    put [')']
termination_by structural query => query

def Field.writeEach (first : Bool) : List Field → Writing Unit
  | [] => pure ()
  | field :: rest => do
    separate Phrase.comma first
    field.write true
    Field.writeEach false rest
termination_by structural fields => fields

def Field.writeEachSelected (first : Bool) : List Field → Writing Unit
  | [] => pure ()
  | field :: rest => do
    separate Phrase.comma first
    field.write true
    put (aliasSuffix field.aliasName)
    Field.writeEachSelected false rest
termination_by structural fields => fields

def Comparison.write : Comparison → Writing Unit
  | ⟨field, comparator, value, quoted, parameter⟩ => do
    if (← ignoresEmpty) && !hasContent value then pure ()
    else do
      field.write true
      put (comparisonTail comparator value quoted parameter)
termination_by structural comparison => comparison

/-- A query among the candidates is not captured. -/
def Candidates.write : Candidates → Writing Unit
  | .values bundle => put bundle.sql
  | .query nested => nested.write false
termination_by structural candidates => candidates

def Membership.write : Membership → Writing Unit
  | ⟨field, candidates, negated⟩ =>
    if candidates.isEmpty then pure ()
    else do
      field.write true
      put (if negated then Phrase.notIn else Phrase.isIn)
      candidates.write
      put [')']
termination_by structural membership => membership

def Condition.write : Condition → Writing Unit
  | .comparison comparison => comparison.write
  | .raw text => put (Text.trim text)
  | .membership membership => membership.write
  | .group connective members => Condition.writeMembers connective true members
termination_by structural condition => condition

/-- Members are captured, and what writes nothing is left out. -/
def Condition.writeMembers (connective : Connective) (first : Bool) : List Condition → Writing Unit
  | [] => pure ()
  | member :: rest => do
    let sql ← capture member.write
    if sql.isEmpty then Condition.writeMembers connective first rest
    else do
      separate (' ' :: connective.sql ++ [' ']) first
      put (member.enclose sql)
      Condition.writeMembers connective false rest
termination_by structural members => members

def Condition.writeClause (ignoresEmpty : Bool) (phrase : Text) : Option Condition → Writing Unit
  | none => pure ()
  | some condition => do
    clause phrase (← captureWith ignoresEmpty condition.write)
termination_by structural condition => condition

def Join.write : Join → Writing Unit
  | ⟨kind, table, localField, foreignField⟩ => do
    put (kind.sql ++ [' '])
    table.write
    put Phrase.on
    localField.write true
    put Phrase.equals
    foreignField.write true
termination_by structural join => join

def Join.writeEach (first : Bool) : List Join → Writing Unit
  | [] => pure ()
  | join :: rest => do
    separate [' '] first
    join.write
    Join.writeEach false rest
termination_by structural joins => joins

def SortKey.write (withTable : Bool) : SortKey → Writing Unit
  | ⟨field, direction⟩ => do
    field.write withTable
    put (' ' :: direction.sql)
termination_by structural key => key

def SortKey.writeEach (withTable first : Bool) : List SortKey → Writing Unit
  | [] => pure ()
  | key :: rest => do
    separate Phrase.comma first
    key.write withTable
    SortKey.writeEach withTable false rest
termination_by structural keys => keys

def Query.write (ordered : Bool) : Query → Writing Unit
  | ⟨fields, selectsAll, into, tables, joins, filter, groups, having, sorts, top, ignoresEmpty⟩ => do
    requireParts tables selectsAll fields
    put Phrase.select
    put (topText top)
    Writing.starOr selectsAll (Field.writeEachSelected true fields)
    put (intoText into)
    put Phrase.tables
    TableRef.writeEach true tables
    behind [' '] (!joins.isEmpty) (Join.writeEach true joins)
    Condition.writeClause ignoresEmpty Phrase.filter filter
    behind Phrase.groups (!groups.isEmpty) (Field.writeEach true groups)
    Condition.writeClause ignoresEmpty Phrase.having having
    behind Phrase.sorts (ordered && !sorts.isEmpty) (SortKey.writeEach true true sorts)
termination_by structural query => query

end

def Query.render (ordered : Bool) (query : Query) : Except RenderError Text :=
  Writing.render (query.write ordered)

end SqlSelect
