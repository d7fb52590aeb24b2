import SqlSelect.Result.Table

/-!
Binders carry the cells of a row into a record, one setter for each column. A column that the
result lacks leaves the record as it is; the first cell of a wrong kind ends the binding.
-/

set_option autoImplicit false
set_option relaxedAutoImplicit false

namespace SqlSelect

/-- How one column is carried over; `set` fails on a cell of another kind than expected. -/
structure Binding (ρ : Type) where
  column : Text
  expected : Text
  set : Value → ρ → Option ρ

/-- The bindings of a record, in the order in which they are applied. -/
structure Binder (ρ : Type) where
  bindings : List (Binding ρ) := []

/-- A record and the failure that ended its binding, if any. -/
structure Bound (ρ : Type) where
  record : ρ
  failure : Option SqlError

namespace Binder

variable {ρ : Type}

def column (α : Type) [FromValue α] (binder : Binder ρ) (name : Text) (set : α → ρ → ρ) :
    Binder ρ :=
  ⟨binder.bindings ++ [
    { column := name
      expected := FromValue.expected α
      set := fun value record => (FromValue.read? value).map fun content => set content record }]⟩

def size (binder : Binder ρ) : Nat := binder.bindings.length

def isEmpty (binder : Binder ρ) : Bool := binder.bindings.isEmpty

def applyAll (row : Row) : List (Binding ρ) → ρ → Bound ρ
  | [], record => ⟨record, none⟩
  | binding :: rest, record =>
    match row.get? binding.column with
    | none => applyAll row rest record
    | some value =>
      match binding.set value record with
      | some next => applyAll row rest next
      | none => ⟨record, some (.typeMismatch binding.column binding.expected)⟩

/-- Carries a row into a record. The record keeps what was set before a failure. -/
def bindInto (binder : Binder ρ) (row : Row) (record : ρ) : Bound ρ :=
  applyAll row binder.bindings record

def bindRow [Inhabited ρ] (binder : Binder ρ) (row : Row) : Except SqlError ρ :=
  let bound := binder.bindInto row default
  match bound.failure with
  | none => .ok bound.record
  | some failure => .error failure

/-- Carries every row into a fresh record; the first row that fails is the failure. -/
def bindTable [Inhabited ρ] (binder : Binder ρ) (table : ResultTable) : Except SqlError (List ρ) :=
  table.allRows.mapM binder.bindRow

def escapeChar : Char → Text
  | '"' => ['\\', '"']
  | '\\' => ['\\', '\\']
  | '\n' => ['\\', 'n']
  | '\r' => ['\\', 'r']
  | '\t' => ['\\', 't']
  | c => [c]

def summary (binder : Binder ρ) : Text :=
  let names := binder.bindings.map fun binding => '"' :: binding.column.flatMap escapeChar ++ ['"']
  '[' :: Text.joinWith [',', ' '] names ++ [']']

end Binder

end SqlSelect
