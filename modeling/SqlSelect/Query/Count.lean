import SqlSelect.Query.Render

/-!
Counting the rows of a query. A query with groups is counted as a derived table; any other one is
counted over its own tables, joins and filter.
-/

set_option autoImplicit false
set_option relaxedAutoImplicit false

namespace SqlSelect

namespace Phrase

def count : Text := "SELECT COUNT(".toList

def asCount : Text := " AS count".toList

def derived : Text := " FROM (".toList

def distinct : Text := "DISTINCT ".toList

end Phrase

namespace Query

/-- Counts the rows of a query in which a column has a value; a blank column counts all rows.
Empty comparisons are left out of the filter unless the query has groups. -/
def countColumnSql (query : Query) (column : Text) : Except SqlError Text :=
  let trimmed := Text.trim column
  let column := if trimmed.isEmpty then ['*'] else trimmed
  if query.groups.isEmpty then
    if query.tables.isEmpty then .error .noTables
    else do
      let sources ← query.sourcesSql
      let filter ← query.filterSql true
      return Phrase.count ++ column ++ ')' :: Phrase.asCount ++ sources ++ filter
  else do
    let rows ← query.sql false
    return Phrase.count ++ column ++ ')' :: Phrase.derived ++ rows ++ ')' :: Phrase.asCount

def countSql (query : Query) : Except SqlError Text := query.countColumnSql ['*']

end Query

end SqlSelect
