import SqlSelect.Query.Page
import SqlSelect.Query.Stream

/-!
Writing counts and pages piece by piece. A count leaves empty comparisons out of the filter of its
query by a flag of its own. The name in the count of a column is captured, since it stands in the
middle of what the count writes.
-/

set_option autoImplicit false
set_option relaxedAutoImplicit false

namespace SqlSelect

/-- Goes on with the value that a check comes to, or leaves its cause in the sink and fails. -/
def Writing.check {α : Type} : Except SqlError α → Writing α
  | .ok a => pure a
  | .error cause => fun sink => (none, { sink with failure := some cause })

open Writing

namespace Query

def writeProjection (query : Query) : Writing Unit :=
  Writing.starOr query.selectsAll (Field.writeEachSelected true query.fields)

def writeSources (query : Query) : Writing Unit := do
  put Phrase.tables
  TableRef.writeEach true query.tables
  behind [' '] (!query.joins.isEmpty) (Join.writeEach true query.joins)

def writeFilter (ignoresEmpty : Bool) (query : Query) : Writing Unit :=
  Condition.writeClause ignoresEmpty Phrase.filter query.filter

def writeSorts (withTable : Bool) (query : Query) : Writing Unit :=
  SortKey.writeEach withTable true query.sorts

def writeCount (query : Query) (column : Text) : Writing Unit :=
  let trimmed := Text.trim column
  let column := if trimmed.isEmpty then ['*'] else trimmed
  if query.groups.isEmpty then
    if query.tables.isEmpty then fail .noTables
    else do
      put (Phrase.count ++ column ++ ')' :: Phrase.asCount)
      query.writeSources
      query.writeFilter true
  else do
    put (Phrase.count ++ column ++ ')' :: Phrase.derived)
    query.write false
    put (')' :: Phrase.asCount)

def writeTotal (query : Query) (request : PageRequest) (column : Writing Text) : Writing Unit :=
  if request.withTotal then do
    let column ← column
    put Phrase.also
    query.writeCount column
  else pure ()

def writeNumbered (query : Query) : Writing Unit := do
  put Phrase.numbering
  query.writeSorts true
  put Phrase.asRowNumber
  query.writeProjection
  query.writeSources
  query.writeFilter true

def writeWindowPage (query : Query) (request : PageRequest) : Writing Unit := do
  let offset ← check (query.pageOffset request)
  put (Phrase.selectTop ++ Text.ofNat request.size.toNat ++ ' ' :: Phrase.allFrom)
  query.writeNumbered
  put (Phrase.asNumbered ++ windowText offset)
  query.writeTotal request (pure ['*'])

def writeTemporaryPage (query : Query) (request : PageRequest) : Writing Unit := do
  let offset ← check (query.pageOffset request)
  (query.withTemporary request).write true
  put (Phrase.also ++ Phrase.selectTop ++ Text.ofNat request.size.toNat ++ ' ' :: Phrase.allFrom)
  put Phrase.numbering
  query.writeSorts false
  put (Phrase.asRowNumber ++ Phrase.starFrom ++ request.tempName ++ Phrase.asTemporary ++
    windowText offset ++ Phrase.dropTable ++ request.tempName)
  query.writeTotal request (pure ['*'])

def writePage (query : Query) (request : PageRequest) : Writing Unit :=
  if query.groups.isEmpty then query.writeWindowPage request else query.writeTemporaryPage request

def writeNumberedGroups (query : Query) : Writing Unit :=
  if query.groups.isEmpty then query.writeNumbered
  else do
    put Phrase.numbering
    query.writeSorts false
    put (Phrase.asRowNumber ++ Phrase.allFrom)
    query.write false
    put Phrase.asGrouped

def writeColumnWindow (query : Query) (request : PageRequest) (offset : UInt64) (field : Field) :
    Writing Unit := do
  put (Phrase.selectTop ++ Text.ofNat request.size.toNat ++ [' '])
  field.write false
  put Phrase.derived
  query.writeNumberedGroups
  put (Phrase.asNumbered ++ windowText offset ++ Phrase.groups)
  field.write false

def writeDistinct (query : Query) (field : Field) : Writing Unit := do
  put Phrase.distinct
  field.write query.groups.isEmpty

def writePageByColumn (query : Query) (request : PageRequest) (field : Field) : Writing Unit := do
  let offset ← check (query.pageOffset request)
  put (Phrase.select ++ Phrase.allFrom)
  query.write false
  put Phrase.asResults
  field.write false
  put Phrase.isIn
  query.writeColumnWindow request offset field
  put (')' :: Phrase.sorts)
  query.writeSorts false
  query.writeTotal request (capture (query.writeDistinct field))

end Query

inductive Writable where
  | field (withTable : Bool) (field : Field)
  /-- A field with the name it is shown under. -/
  | selected (field : Field)
  | condition (condition : Condition)
  | statement (ordered : Bool) (query : Query)
  | count (query : Query) (column : Text)
  | page (query : Query) (request : PageRequest)
  | pageByColumn (query : Query) (request : PageRequest) (field : Field)

namespace Writable

def write : Writable → Writing Unit
  | field withTable column => column.write withTable
  | selected column => do
    column.write true
    Writing.put (aliasSuffix column.aliasName)
  | condition tested => tested.write
  | statement ordered query => query.write ordered
  | count query column => query.writeCount column
  | page query request => query.writePage request
  | pageByColumn query request column => query.writePageByColumn request column

def sql (ignoresEmpty : Bool) : Writable → Except SqlError Text
  | field withTable column => column.sql withTable
  | selected column => column.selectSql
  | condition tested => tested.sql ignoresEmpty
  | statement ordered query => query.sql ordered
  | count query column => query.countColumnSql column
  | page query request => query.pageSql request
  | pageByColumn query request column => query.pageByColumnSql request column

end Writable

end SqlSelect
