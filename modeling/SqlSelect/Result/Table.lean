import SqlSelect.Error
import SqlSelect.Text.Case
import SqlSelect.Value.FromValue

/-!
Results: named columns over rows of cells. Every row has one cell for each column, and a column is
found by its name in any case; of two such columns the first one counts.
-/

set_option autoImplicit false
set_option relaxedAutoImplicit false

namespace SqlSelect

structure ResultTable where
  columns : List Text := []
  rows : List (List Value) := []
deriving DecidableEq

/-- A row together with the columns it belongs to. -/
structure Row where
  columns : List Text
  cells : List Value
deriving DecidableEq

def columnIndex? (columns : List Text) (name : Text) : Option Nat :=
  columns.findIdx? (Text.sameLetters · name)

namespace Row

def get? (row : Row) (column : Text) : Option Value :=
  (columnIndex? row.columns column).bind fun index => row.cells[index]?

def read (α : Type) [FromValue α] (row : Row) (column : Text) : Except SqlError α :=
  match row.get? column with
  | none => .error (.missingColumn column)
  | some value =>
    match FromValue.read? value with
    | some content => .ok content
    | none => .error (.typeMismatch column (FromValue.expected α))

end Row

namespace ResultTable

def ofColumns (columns : List Text) : ResultTable := { columns }

/-- Cells cut off or filled up with nulls to one for each column. -/
def fit (columns : List Text) (cells : List Value) : List Value :=
  (cells.take columns.length).rightpad columns.length .null

def pushRow (table : ResultTable) (cells : List Value) : ResultTable :=
  { table with rows := table.rows ++ [fit table.columns cells] }

def columnIndex? (table : ResultTable) (name : Text) : Option Nat :=
  SqlSelect.columnIndex? table.columns name

def row? (table : ResultTable) (index : Nat) : Option Row :=
  table.rows[index]?.map fun cells => ⟨table.columns, cells⟩

def allRows (table : ResultTable) : List Row := table.rows.map fun cells => ⟨table.columns, cells⟩

theorem length_fit (columns : List Text) (cells : List Value) :
    (fit columns cells).length = columns.length := by
  simp only [fit, List.rightpad, List.length_append, List.length_take, List.length_replicate]
  omega

end ResultTable

end SqlSelect
