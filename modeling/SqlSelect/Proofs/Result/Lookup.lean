import SqlSelect.Result.Table
import Mathlib.Data.List.Forall2

/-!
Rows of a result and the columns they are read by. Main statement: whatever rows are pushed, each
has one cell for each column, so a name finds a cell exactly if some column has it, in any case; of
such columns the first one counts.
-/

set_option autoImplicit false
set_option relaxedAutoImplicit false

namespace SqlSelect

def HasColumn (columns : List Text) (name : Text) : Prop :=
  ∃ column ∈ columns, Text.sameLetters column name = true

/-- Whether the column at a place is the first that has a name, in any case. -/
structure IsFirstColumn (columns : List Text) (name : Text) (place : Nat) : Prop where
  named : ∃ column, columns[place]? = some column ∧ Text.sameLetters column name = true
  first : ∀ earlier < place, ∀ column, columns[earlier]? = some column →
    Text.sameLetters column name = false

/-- The cells of a row for some columns: those that were pushed, without the ones behind the last
column, and nulls where they are too few. -/
structure FitsColumns (columns : List Text) (pushed cells : List Value) : Prop where
  length_eq : cells.length = columns.length
  cell : ∀ place < columns.length, cells[place]? = some (pushed[place]?.getD .null)

/-- What a row answers that was pushed to a table with some columns. -/
structure Row.LinesUp (columns : List Text) (pushed : List Value) (row : Row) : Prop where
  columns_eq : row.columns = columns
  fits : FitsColumns columns pushed row.cells
  present : ∀ name, (row.get? name).isSome = true ↔ HasColumn columns name
  found : ∀ name value, row.get? name = some value ↔
    ∃ place, IsFirstColumn columns name place ∧ row.cells[place]? = some value
  failure : ∀ (α : Type) [FromValue α] (name : Text) (cause : SqlError),
    row.read α name = .error cause ↔
      (¬HasColumn columns name ∧ cause = .missingColumn name) ∨
      ∃ value, row.get? name = some value ∧ (FromValue.read? value : Option α) = none ∧
        cause = .typeMismatch name (FromValue.expected α)
  content : ∀ (α : Type) [FromValue α] (name : Text) (content : α),
    row.read α name = .ok content ↔
      ∃ value, row.get? name = some value ∧ FromValue.read? value = some content

/-! ## Columns -/

section Columns

variable {columns : List Text} {name : Text} {place : Nat}

private theorem columnIndex?_eq_some_iff :
    columnIndex? columns name = some place ↔ IsFirstColumn columns name place := by
  rw [columnIndex?, List.findIdx?_eq_some_iff_getElem]
  constructor
  · rintro ⟨hplace, hsame, hfirst⟩
    refine ⟨⟨columns[place], List.getElem?_eq_getElem hplace, hsame⟩, ?_⟩
    intro earlier hearlier column hcolumn
    obtain ⟨-, rfl⟩ := List.getElem?_eq_some_iff.1 hcolumn
    simpa using hfirst earlier hearlier
  · rintro ⟨⟨column, hcolumn, hsame⟩, hfirst⟩
    obtain ⟨hplace, rfl⟩ := List.getElem?_eq_some_iff.1 hcolumn
    refine ⟨hplace, hsame, fun earlier hearlier => ?_⟩
    have hother := hfirst earlier hearlier _ (List.getElem?_eq_getElem (by omega))
    simp [hother]

private theorem isSome_columnIndex? :
    (columnIndex? columns name).isSome = true ↔ HasColumn columns name := by
  rw [columnIndex?, List.findIdx?_isSome, List.any_eq_true]
  rfl

private theorem IsFirstColumn.lt_length (h : IsFirstColumn columns name place) :
    place < columns.length := by
  obtain ⟨column, hcolumn, -⟩ := h.named
  exact (List.getElem?_eq_some_iff.1 hcolumn).1

end Columns

/-! ## Rows -/

namespace Row

variable {row : Row} {name : Text}

private theorem get?_eq_some_iff {value : Value} : row.get? name = some value ↔
    ∃ place, IsFirstColumn row.columns name place ∧ row.cells[place]? = some value := by
  simp only [get?, Option.bind_eq_some_iff, columnIndex?_eq_some_iff]

theorem isSome_get? (h : row.cells.length = row.columns.length) :
    (row.get? name).isSome = true ↔ HasColumn row.columns name := by
  rw [← isSome_columnIndex?, Option.isSome_iff_exists, Option.isSome_iff_exists]
  constructor
  · rintro ⟨value, hvalue⟩
    obtain ⟨place, hplace, -⟩ := get?_eq_some_iff.1 hvalue
    exact ⟨place, columnIndex?_eq_some_iff.2 hplace⟩
  · rintro ⟨place, hplace⟩
    have hfirst := columnIndex?_eq_some_iff.1 hplace
    have hcell : place < row.cells.length := h ▸ hfirst.lt_length
    exact ⟨row.cells[place], get?_eq_some_iff.2 ⟨place, hfirst, List.getElem?_eq_getElem hcell⟩⟩

variable {α : Type} [FromValue α]

private theorem read_eq_error_iff {cause : SqlError} : row.read α name = .error cause ↔
    (row.get? name = none ∧ cause = .missingColumn name) ∨
    ∃ value, row.get? name = some value ∧ (FromValue.read? value : Option α) = none ∧
      cause = .typeMismatch name (FromValue.expected α) := by
  rw [read]
  cases hcell : row.get? name with
  | none => simp [eq_comm]
  | some value =>
    cases hread : (FromValue.read? value : Option α) with
    | none => simp [hread, eq_comm]
    | some content => simp [hread]

private theorem read_eq_ok_iff {content : α} : row.read α name = .ok content ↔
    ∃ value, row.get? name = some value ∧ FromValue.read? value = some content := by
  rw [read]
  cases hcell : row.get? name with
  | none => simp
  | some value =>
    cases hread : (FromValue.read? value : Option α) with
    | none => simp [hread]
    | some other => simp [hread]

end Row

namespace ResultTable

private theorem fitsColumns_fit (columns : List Text) (pushed : List Value) :
    FitsColumns columns pushed (fit columns pushed) := by
  refine ⟨length_fit columns pushed, fun place hplace => ?_⟩
  rw [fit, List.rightpad]
  by_cases hpushed : place < pushed.length
  · have htaken : place < (pushed.take columns.length).length := by
      rw [List.length_take]
      omega
    rw [List.getElem?_append_left htaken, List.getElem?_take_of_lt hplace,
      List.getElem?_eq_getElem hpushed, Option.getD_some]
  · have hshort : (pushed.take columns.length).length = pushed.length := by
      rw [List.length_take]
      omega
    rw [List.getElem?_append_right (by omega), List.getElem?_replicate_of_lt (by omega),
      List.getElem?_eq_none (by omega), Option.getD_none]

private theorem linesUp_fit (columns : List Text) (pushed : List Value) :
    Row.LinesUp columns pushed ⟨columns, fit columns pushed⟩ := by
  have hfits := fitsColumns_fit columns pushed
  have hpresent (name : Text) :
      (Row.get? ⟨columns, fit columns pushed⟩ name).isSome = true ↔ HasColumn columns name :=
    Row.isSome_get? hfits.length_eq
  exact {
    columns_eq := rfl
    fits := hfits
    present := hpresent
    found := fun _ _ => Row.get?_eq_some_iff
    failure := fun α _ name cause => by
      rw [Row.read_eq_error_iff, ← hpresent, Option.not_isSome_iff_eq_none]
    content := fun α _ _ _ => Row.read_eq_ok_iff }

def pushAll (table : ResultTable) (pushes : List (List Value)) : ResultTable :=
  pushes.foldl pushRow table

theorem pushAll_eq (table : ResultTable) (pushes : List (List Value)) :
    table.pushAll pushes =
      { table with rows := table.rows ++ pushes.map (fit table.columns) } := by
  induction pushes generalizing table with
  | nil => simp [pushAll]
  | cons pushed rest ih =>
    have hrest := ih (table.pushRow pushed)
    rw [pushAll, List.foldl_cons]
    rw [pushAll] at hrest
    simpa [pushRow] using hrest

private theorem row?_eq (table : ResultTable) (index : Nat) :
    table.row? index = table.allRows[index]? := by
  rw [row?, allRows, List.getElem?_map]

/-- Rows line up with the columns of their table. Of the rows that were pushed each is there, in
order, with one cell for each column, and it answers for every name. -/
theorem rows_line_up (columns : List Text) (pushes : List (List Value)) :
    let table := (ofColumns columns).pushAll pushes
    table.columns = columns ∧
    List.Forall₂ (Row.LinesUp columns) pushes table.allRows ∧
    ∀ index, table.row? index = table.allRows[index]? := by
  intro table
  have htable : table = { columns, rows := pushes.map (fit columns) } := pushAll_eq _ pushes
  have hrows : table.allRows = pushes.map fun pushed => ⟨columns, fit columns pushed⟩ := by
    rw [htable, allRows, List.map_map]
    rfl
  refine ⟨congrArg ResultTable.columns htable, ?_, table.row?_eq⟩
  rw [hrows, List.forall₂_map_right_iff, List.forall₂_same]
  intro pushed _
  exact linesUp_fit columns pushed

end ResultTable

end SqlSelect
