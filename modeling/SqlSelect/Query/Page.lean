import SqlSelect.Query.Count

/-!
Pages. The rows of a query are numbered in its order and a page is a window of the numbers. A query
with groups is first put into a temporary table. A page can also be one of the distinct values of
a column; it then holds every row with one of those values.
-/

set_option autoImplicit false
set_option relaxedAutoImplicit false

namespace SqlSelect

/-- Which page is asked for: pages of `size` rows are numbered from zero. -/
structure PageRequest where
  size : UInt64 := 15
  index : UInt64 := 0
  /-- The total count is asked for too. -/
  withTotal : Bool := false
  tempTable : Text := "#paginationTempTable".toList
deriving DecidableEq

namespace PageRequest

/-- The request for the page behind; the last page number stays. -/
def next (request : PageRequest) : PageRequest :=
  let index := request.index.toNat + 1
  if index < UInt64.size then { request with index := UInt64.ofNat index } else request

/-- The number of rows before the page, if it has 64 bits. -/
def offset? (request : PageRequest) : Option UInt64 :=
  let rows := request.index.toNat * request.size.toNat
  if rows < UInt64.size then some (UInt64.ofNat rows) else none

/-- The name of the temporary table, behind one `#`. -/
def tempName (request : PageRequest) : Text := '#' :: bareTempName request.tempTable

end PageRequest

namespace Phrase

def numbering : Text := "SELECT ROW_NUMBER() OVER (ORDER BY ".toList

def asRowNumber : Text := ") AS RowNumber, ".toList

def selectTop : Text := "SELECT TOP ".toList

def allFrom : Text := "* FROM (".toList

def starFrom : Text := "* FROM ".toList

def window : Text := "WHERE RowNumber > ".toList

def also : Text := "; ".toList

def dropTable : Text := "; DROP TABLE ".toList

def asResults : Text := ") AS results WHERE ".toList

def asGrouped : Text := ") AS g".toList

def asNumbered : Text := ") AS a ".toList

def asTemporary : Text := ") r ".toList

end Phrase

namespace Query

/-- The number of rows before a page of a query. The order, the page size, the page number and the
parts of the query are checked in this order. -/
def pageOffset (query : Query) (request : PageRequest) : Except SqlError UInt64 :=
  if query.sorts.isEmpty then .error .orderRequired
  else if request.size = 0 then .error (.invalidPageSize request.size)
  else match request.offset? with
    | none => .error (.pageOutOfRange request.index request.size)
    | some offset => query.requireComplete.map fun _ => offset

def numberedSql (query : Query) : Except SqlError Text := do
  let sorts ← query.sortsSql true
  let projection ← query.projectionSql
  let sources ← query.sourcesSql
  let filter ← query.filterSql true
  return Phrase.numbering ++ sorts ++ Phrase.asRowNumber ++ projection ++ sources ++ filter

def totalSql (query : Query) (request : PageRequest) (column : Except SqlError Text) :
    Except SqlError Text :=
  if request.withTotal then do
    let column ← column
    let count ← query.countColumnSql column
    return Phrase.also ++ count
  else return []

def windowText (offset : UInt64) : Text := Phrase.window ++ Text.ofNat offset.toNat

def windowPageSql (query : Query) (request : PageRequest) : Except SqlError Text := do
  let offset ← query.pageOffset request
  let numbered ← query.numberedSql
  let total ← query.totalSql request (.ok ['*'])
  return Phrase.selectTop ++ Text.ofNat request.size.toNat ++ ' ' :: Phrase.allFrom ++ numbered ++
    Phrase.asNumbered ++ windowText offset ++ total

def withTemporary (query : Query) (request : PageRequest) : Query :=
  { query with into := some request.tempName }

/-- A page of a query with groups. The temporary table has plain column names. -/
def temporaryPageSql (query : Query) (request : PageRequest) : Except SqlError Text := do
  let offset ← query.pageOffset request
  let rows ← (query.withTemporary request).sql true
  let sorts ← query.sortsSql false
  let total ← query.totalSql request (.ok ['*'])
  return rows ++ Phrase.also ++ Phrase.selectTop ++ Text.ofNat request.size.toNat ++
    ' ' :: Phrase.allFrom ++ Phrase.numbering ++ sorts ++ Phrase.asRowNumber ++
    Phrase.starFrom ++ request.tempName ++ Phrase.asTemporary ++ windowText offset ++
    Phrase.dropTable ++ request.tempName ++ total

def pageSql (query : Query) (request : PageRequest) : Except SqlError Text :=
  if query.groups.isEmpty then query.windowPageSql request else query.temporaryPageSql request

/-- The numbered rows that a page of column values is cut from. Grouped rows are numbered as a
derived table, which has plain column names. -/
def numberedGroupsSql (query : Query) : Except SqlError Text :=
  if query.groups.isEmpty then query.numberedSql
  else do
    let sorts ← query.sortsSql false
    let rows ← query.sql false
    return Phrase.numbering ++ sorts ++ Phrase.asRowNumber ++ Phrase.allFrom ++ rows ++
      Phrase.asGrouped

def columnWindowSql (query : Query) (request : PageRequest) (offset : UInt64) (column : Text) :
    Except SqlError Text := do
  let numbered ← query.numberedGroupsSql
  return Phrase.selectTop ++ Text.ofNat request.size.toNat ++ ' ' :: column ++ Phrase.derived ++
    numbered ++ Phrase.asNumbered ++ windowText offset ++ Phrase.groups ++ column

/-- The rows of a query whose field has one of the values of a page. -/
def pageByColumnSql (query : Query) (request : PageRequest) (field : Field) :
    Except SqlError Text := do
  let offset ← query.pageOffset request
  let rows ← query.sql false
  let column ← field.sql false
  let window ← query.columnWindowSql request offset column
  let sorts ← query.sortsSql false
  let total ← query.totalSql request do
    let name ← field.sql query.groups.isEmpty
    return Phrase.distinct ++ name
  return Phrase.select ++ Phrase.allFrom ++ rows ++ Phrase.asResults ++ column ++ Phrase.isIn ++
    window ++ ')' :: Phrase.sorts ++ sorts ++ total

end Query

end SqlSelect
