import SqlSelect.Result.Binder
import SqlSelect.Proofs.Result.Lookup
import SqlSelect.Proofs.Traversal
import Mathlib.Data.List.Perm.Basic

/-!
Rows carried into records. Main statement: a row calls the setters of the columns that it has, in
the order of the binder and up to the first cell of another kind than its column expects; a table is
carried over row by row, and neither the order of its columns nor a column that no setter is bound
to makes a difference.
-/

set_option autoImplicit false
set_option relaxedAutoImplicit false

namespace SqlSelect

/-- A column that is bound to a setter, and the type that its cells are read as. -/
structure BoundColumn (ρ : Type) where
  content : Type
  [fromValue : FromValue content]
  name : Text
  set : content → ρ → ρ

attribute [instance] BoundColumn.fromValue

/-- A call of the setter of a column with the content of a cell. -/
structure SetterCall (ρ : Type) where
  column : BoundColumn ρ
  content : column.content

variable {ρ : Type}

namespace BoundColumn

def call? (column : BoundColumn ρ) (cell : Value) : Option (SetterCall ρ) :=
  (FromValue.read? cell).map fun content => ⟨column, content⟩

def mismatch (column : BoundColumn ρ) : SqlError :=
  .typeMismatch column.name (FromValue.expected column.content)

end BoundColumn

def SetterCall.run (record : ρ) (call : SetterCall ρ) : ρ := call.column.set call.content record

/-- The binder to which the columns were added one by one. -/
def Binder.ofColumns (columns : List (BoundColumn ρ)) : Binder ρ :=
  columns.foldl (fun binder column => binder.column column.content column.name column.set) {}

namespace Row

def present (row : Row) (columns : List (BoundColumn ρ)) : List (BoundColumn ρ × Value) :=
  columns.filterMap fun column => (row.get? column.name).map (column, ·)

/-- The bound columns that a row has, up to the first cell of another kind than expected. -/
def converted (row : Row) (columns : List (BoundColumn ρ)) : List (BoundColumn ρ × Value) :=
  (row.present columns).takeWhile fun (column, cell) => (column.call? cell).isSome

def calls (row : Row) (columns : List (BoundColumn ρ)) : List (SetterCall ρ) :=
  (row.converted columns).filterMap fun (column, cell) => column.call? cell

/-- The first column that the row has with a cell of another kind than expected. -/
def firstMismatch? (row : Row) (columns : List (BoundColumn ρ)) : Option (BoundColumn ρ) :=
  ((row.present columns).find? fun (column, cell) => (column.call? cell).isNone).map Prod.fst

end Row

/-- Whether no two columns have one name in any case. -/
def HasDistinctColumns (columns : List Text) : Prop :=
  columns.Pairwise fun left right => Text.sameLetters left right = false

/-- The entries at some places, in the order of the places. -/
def pick {α : Type} (places : List Nat) (entries : List α) : List α :=
  places.filterMap (entries[·]?)

def ResultTable.select (places : List Nat) (table : ResultTable) : ResultTable :=
  { columns := pick places table.columns, rows := table.rows.map (pick places) }

/-! ## One row -/

namespace Binder

private def bindingOf (column : BoundColumn ρ) : Binding ρ where
  column := column.name
  expected := FromValue.expected column.content
  set cell record := (column.call? cell).map (SetterCall.run record)

private theorem set_bindingOf (column : BoundColumn ρ) (cell : Value) (record : ρ) :
    (bindingOf column).set cell record = (column.call? cell).map (SetterCall.run record) := rfl

private theorem bindings_column (binder : Binder ρ) (column : BoundColumn ρ) :
    (binder.column column.content column.name column.set).bindings =
      binder.bindings ++ [bindingOf column] := by
  have hset : (fun cell record => (FromValue.read? cell).map fun content =>
      column.set content record) = (bindingOf column).set := by
    funext cell record
    rw [set_bindingOf, BoundColumn.call?, Option.map_map]
    rfl
  rw [Binder.column, hset]
  rfl

private theorem bindings_ofColumns (columns : List (BoundColumn ρ)) :
    (ofColumns columns).bindings = columns.map bindingOf := by
  have hadded (binder : Binder ρ) :
      (columns.foldl (fun binder column =>
        binder.column column.content column.name column.set) binder).bindings =
          binder.bindings ++ columns.map bindingOf := by
    induction columns generalizing binder with
    | nil => simp
    | cons column rest ih =>
      rw [List.foldl_cons, ih, bindings_column, List.map_cons, List.append_assoc,
        List.singleton_append]
  exact hadded {}

private theorem bindInto_ofColumns (columns : List (BoundColumn ρ)) (row : Row) (record : ρ) :
    (ofColumns columns).bindInto row record =
      ⟨(row.calls columns).foldl SetterCall.run record,
        (row.firstMismatch? columns).map BoundColumn.mismatch⟩ := by
  rw [bindInto, bindings_ofColumns]
  induction columns generalizing record with
  | nil => rfl
  | cons column rest ih =>
    have hname : (bindingOf column).column = column.name := rfl
    have hexpected : (bindingOf column).expected = FromValue.expected column.content := rfl
    rw [List.map_cons, applyAll, hname]
    cases hcell : row.get? column.name with
    | none =>
      have hpresent : row.present (column :: rest) = row.present rest := by
        rw [Row.present, List.filterMap_cons_none (by rw [hcell]; rfl), Row.present]
      simp only [ih, Row.calls, Row.converted, Row.firstMismatch?, hpresent]
    | some cell =>
      have hpresent : row.present (column :: rest) = (column, cell) :: row.present rest := by
        rw [Row.present, List.filterMap_cons_some (by rw [hcell]; rfl), Row.present]
      cases hcall : column.call? cell with
      | none =>
        simp [set_bindingOf, Row.calls, Row.converted, Row.firstMismatch?, hpresent, hcall,
          BoundColumn.mismatch, hexpected]
      | some call =>
        simp [set_bindingOf, ih, Row.calls, Row.converted, Row.firstMismatch?, hpresent, hcall]

private theorem bindRow_eq_ok_iff [Inhabited ρ] {binder : Binder ρ} {row : Row} {record : ρ} :
    binder.bindRow row = .ok record ↔ binder.bindInto row default = ⟨record, none⟩ := by
  rw [bindRow]
  cases hbound : binder.bindInto row default with
  | mk bound failure => cases failure <;> simp

private theorem bindRow_eq_error_iff [Inhabited ρ] {binder : Binder ρ} {row : Row}
    {failure : SqlError} :
    binder.bindRow row = .error failure ↔ (binder.bindInto row default).failure = some failure := by
  rw [bindRow]
  cases hbound : binder.bindInto row default with
  | mk bound failure => cases failure <;> simp

private theorem exists_bindRow_eq_ok_iff [Inhabited ρ] {binder : Binder ρ} {row : Row} :
    (∃ record, binder.bindRow row = .ok record) ↔ (binder.bindInto row default).failure = none := by
  rw [bindRow]
  cases hbound : binder.bindInto row default with
  | mk bound failure => cases failure <;> simp

end Binder

/-! ## Columns in another order -/

private theorem find?_eq_of_unique {α : Type} {p : α → Bool} {xs ys : List α}
    (hmem : ∀ x, p x = true → (x ∈ xs ↔ x ∈ ys))
    (hunique : ∀ x ∈ xs, ∀ y ∈ xs, p x = true → p y = true → x = y) : xs.find? p = ys.find? p := by
  cases hfound : xs.find? p with
  | none =>
    refine (List.find?_eq_none.2 fun y hy hp => ?_).symm
    exact List.find?_eq_none.1 hfound y ((hmem y hp).2 hy) hp
  | some x =>
    have hp := List.find?_some hfound
    have hx := List.mem_of_find?_eq_some hfound
    obtain ⟨y, hy⟩ := Option.isSome_iff_exists.1 (List.find?_isSome.2 ⟨x, (hmem x hp).1 hx, hp⟩)
    have hpy := List.find?_some hy
    rw [hy, hunique x hx y ((hmem y hpy).2 (List.mem_of_find?_eq_some hy)) hp hpy]

section Pick

variable {α β : Type} {places : List Nat} {entries : List α}

private theorem mem_pick {entry : α} :
    entry ∈ pick places entries ↔ ∃ place ∈ places, entries[place]? = some entry :=
  List.mem_filterMap

private theorem length_pick {others : List β} (h : entries.length = others.length) :
    (pick places entries).length = (pick places others).length := by
  rw [pick, pick, List.length_filterMap_eq_countP, List.length_filterMap_eq_countP]
  refine List.countP_congr fun place _ => ?_
  simp [h]

private theorem zip_pick {others : List β} (h : entries.length = others.length) :
    (pick places entries).zip (pick places others) = pick places (entries.zip others) := by
  simp only [pick]
  induction places with
  | nil => rfl
  | cons place places ih =>
    by_cases hplace : place < entries.length
    · have hother : place < others.length := h ▸ hplace
      have hboth : (entries.zip others)[place]? = some (entries[place], others[place]) :=
        List.getElem?_zip_eq_some.2 ⟨List.getElem?_eq_getElem hplace,
          List.getElem?_eq_getElem hother⟩
      rw [List.filterMap_cons_some (List.getElem?_eq_getElem hplace),
        List.filterMap_cons_some (List.getElem?_eq_getElem hother),
        List.filterMap_cons_some hboth, List.zip_cons_cons, ih]
    · have hother : ¬place < others.length := h ▸ hplace
      have hboth : ¬place < (entries.zip others).length := by
        rw [List.length_zip]
        omega
      rw [List.filterMap_cons_none (List.getElem?_eq_none (by omega)),
        List.filterMap_cons_none (List.getElem?_eq_none (by omega)),
        List.filterMap_cons_none (List.getElem?_eq_none (by omega)), ih]

end Pick

namespace Row

variable {row : Row} {name : Text}

private theorem get?_eq_find? (h : row.cells.length = row.columns.length) :
    row.get? name = ((row.columns.zip row.cells).find? fun entry =>
      Text.sameLetters entry.1 name).map Prod.snd := by
  obtain ⟨columns, cells⟩ := row
  simp only [get?, columnIndex?] at h ⊢
  induction columns generalizing cells with
  | nil => rfl
  | cons column columns ih =>
    cases cells with
    | nil => simp at h
    | cons cell cells =>
      have hrest := ih cells (by simpa using h)
      rw [List.findIdx?_cons, List.zip_cons_cons, List.find?_cons]
      cases hsame : Text.sameLetters column name with
      | true => simp
      | false =>
        simp only [Bool.false_eq_true, if_false, Option.bind_map, ← hrest]
        rfl

private theorem eq_of_hasDistinctColumns (h : HasDistinctColumns row.columns)
    {left right : Text × Value} (hleft : left ∈ row.columns.zip row.cells)
    (hright : right ∈ row.columns.zip row.cells) (hleftNamed : Text.sameLetters left.1 name = true)
    (hrightNamed : Text.sameLetters right.1 name = true) : left = right := by
  have happart := List.pairwise_iff_getElem.1 h
  obtain ⟨i, hi⟩ := List.mem_iff_getElem?.1 hleft
  obtain ⟨j, hj⟩ := List.mem_iff_getElem?.1 hright
  obtain ⟨hileft, -⟩ := List.getElem?_zip_eq_some.1 hi
  obtain ⟨hjright, -⟩ := List.getElem?_zip_eq_some.1 hj
  obtain ⟨hilt, hleftColumn⟩ := List.getElem?_eq_some_iff.1 hileft
  obtain ⟨hjlt, hrightColumn⟩ := List.getElem?_eq_some_iff.1 hjright
  have hsame : Text.sameLetters left.1 right.1 = true := by
    rw [Text.sameLetters, beq_iff_eq] at hleftNamed hrightNamed ⊢
    rw [hleftNamed, hrightNamed]
  rcases Nat.lt_trichotomy i j with hlt | rfl | hlt
  · have hdiffer := happart i j hilt hjlt hlt
    rw [hleftColumn, hrightColumn, hsame] at hdiffer
    cases hdiffer
  · exact Option.some.inj (hi.symm.trans hj)
  · have hdiffer := happart j i hjlt hilt hlt
    rw [hleftColumn, hrightColumn, Text.sameLetters_comm, hsame] at hdiffer
    cases hdiffer

private def select (places : List Nat) (row : Row) : Row :=
  ⟨pick places row.columns, pick places row.cells⟩

/-- A name finds the same cell among the columns at some places, if all columns that have the name
are there and they are one. -/
private theorem get?_select {places : List Nat} (h : row.cells.length = row.columns.length)
    (houtside : ∀ place ∉ places, ∀ column, row.columns[place]? = some column →
      Text.sameLetters column name = false)
    (hdistinct : HasDistinctColumns row.columns ∨ HasDistinctColumns (row.select places).columns) :
    (row.select places).get? name = row.get? name := by
  have hzip : (row.select places).columns.zip (row.select places).cells =
      pick places (row.columns.zip row.cells) := zip_pick h.symm
  have hmem (entry : Text × Value) (hnamed : Text.sameLetters entry.1 name = true) :
      entry ∈ row.columns.zip row.cells ↔ entry ∈ pick places (row.columns.zip row.cells) := by
    rw [mem_pick, List.mem_iff_getElem?]
    constructor
    · rintro ⟨place, hplace⟩
      refine ⟨place, by_contra fun hout => ?_, hplace⟩
      have hother := houtside place hout _ (List.getElem?_zip_eq_some.1 hplace).1
      rw [hnamed] at hother
      cases hother
    · rintro ⟨place, -, hplace⟩
      exact ⟨place, hplace⟩
  rw [get?_eq_find? h, get?_eq_find? (length_pick h), hzip]
  refine congrArg (Option.map Prod.snd) (find?_eq_of_unique hmem ?_).symm
  intro left hleft right hright hleftNamed hrightNamed
  rcases hdistinct with hwhole | hselected
  · exact eq_of_hasDistinctColumns hwhole hleft hright hleftNamed hrightNamed
  · exact eq_of_hasDistinctColumns hselected (hzip ▸ (hmem left hleftNamed).1 hleft)
      (hzip ▸ (hmem right hrightNamed).1 hright) hleftNamed hrightNamed

end Row

/-! ## Whole tables -/

private theorem Binder.applyAll_congr {row other : Row} {bindings : List (Binding ρ)}
    (h : ∀ binding ∈ bindings, row.get? binding.column = other.get? binding.column) (record : ρ) :
    applyAll row bindings record = applyAll other bindings record := by
  induction bindings generalizing record with
  | nil => rfl
  | cons binding rest ih =>
    obtain ⟨hbinding, hrest⟩ := List.forall_mem_cons.1 h
    rw [applyAll, applyAll, hbinding]
    simp only [ih hrest]

namespace ResultTable

private def IsWhole (table : ResultTable) : Prop :=
  ∀ row ∈ table.allRows, row.cells.length = row.columns.length

private theorem isWhole_pushAll (names : List Text) (pushes : List (List Value)) :
    ((ofColumns names).pushAll pushes).IsWhole := by
  intro row hrow
  rw [pushAll_eq, allRows, List.mem_map] at hrow
  obtain ⟨cells, hcells, rfl⟩ := hrow
  obtain ⟨pushed, -, rfl⟩ := List.mem_map.1 (by simpa [ofColumns] using hcells)
  exact length_fit names pushed

private theorem columns_pushAll (names : List Text) (pushes : List (List Value)) :
    ((ofColumns names).pushAll pushes).columns = names := by
  rw [pushAll_eq]
  rfl

private theorem allRows_select (places : List Nat) (table : ResultTable) :
    (table.select places).allRows = table.allRows.map (Row.select places) := by
  rw [allRows, allRows, select, List.map_map, List.map_map]
  rfl

variable {columns : List (BoundColumn ρ)} {table : ResultTable} {places : List Nat}

private theorem bindTable_select [Inhabited ρ] (h : table.IsWhole)
    (houtside : ∀ place ∉ places, ∀ name, table.columns[place]? = some name →
      ∀ column ∈ columns, Text.sameLetters name column.name = false)
    (hdistinct : HasDistinctColumns table.columns ∨
      HasDistinctColumns (table.select places).columns) :
    (Binder.ofColumns columns).bindTable (table.select places) =
      (Binder.ofColumns columns).bindTable table := by
  rw [Binder.bindTable, Binder.bindTable, allRows_select, List.mapM_map]
  refine mapM_congr_of_mem fun row hrow => ?_
  have hcolumns : row.columns = table.columns := by
    obtain ⟨cells, -, rfl⟩ := List.mem_map.1 hrow
    rfl
  have hrecord : (Binder.ofColumns columns).bindInto (row.select places) default =
      (Binder.ofColumns columns).bindInto row default := by
    refine Binder.applyAll_congr (fun binding hbinding => ?_) default
    rw [Binder.bindings_ofColumns] at hbinding
    obtain ⟨column, hcolumn, rfl⟩ := List.mem_map.1 hbinding
    have hselected : (row.select places).columns = (table.select places).columns :=
      congrArg (pick places) hcolumns
    refine Row.get?_select (h row hrow) (fun place hout name hname => ?_)
      (by rwa [hselected, hcolumns])
    exact houtside place hout name (hcolumns ▸ hname) column hcolumn
  rw [Function.comp_apply, Binder.bindRow, Binder.bindRow, hrecord]

/-- A table is carried over by the names of its columns. Each row calls the setters of the columns
that it has, in the order of the binder, up to the first cell of another kind than expected, and the
failure names that column; the table gives one record for each row, or the failure of the first row
that fails. With distinct columns, neither their order nor further columns that no setter is bound
to make a difference. The record is arbitrary, so it may be the list of the calls itself. -/
theorem bindTable_goes_by_name [Inhabited ρ] (columns : List (BoundColumn ρ)) (names : List Text)
    (pushes : List (List Value)) :
    let binder := Binder.ofColumns columns
    let table := (ofColumns names).pushAll pushes
    (∀ row ∈ table.allRows,
      (∀ column ∈ columns, (row.get? column.name).isSome = true ↔ HasColumn names column.name) ∧
      ∀ record, binder.bindInto row record =
        ⟨(row.calls columns).foldl SetterCall.run record,
          (row.firstMismatch? columns).map BoundColumn.mismatch⟩) ∧
    (∀ records, binder.bindTable table = .ok records ↔
      List.Forall₂ (fun row record => binder.bindInto row default = ⟨record, none⟩)
        table.allRows records) ∧
    (∀ failure, binder.bindTable table = .error failure ↔
      ∃ front row back, table.allRows = front ++ row :: back ∧
        (∀ earlier ∈ front, (binder.bindInto earlier default).failure = none) ∧
        (binder.bindInto row default).failure = some failure) ∧
    (HasDistinctColumns names →
      (∀ order, order.Perm (List.range names.length) →
        binder.bindTable (table.select order) = binder.bindTable table) ∧
      ∀ places moreNames morePushes,
        let wider := (ofColumns moreNames).pushAll morePushes
        wider.select places = table →
        (∀ place ∉ places, ∀ name, moreNames[place]? = some name →
          ∀ column ∈ columns, Text.sameLetters name column.name = false) →
        binder.bindTable wider = binder.bindTable table) := by
  intro binder table
  have hwhole : table.IsWhole := isWhole_pushAll names pushes
  have hnames : table.columns = names := columns_pushAll names pushes
  refine ⟨fun row hrow => ⟨fun column _ => ?_, Binder.bindInto_ofColumns columns row⟩,
    fun records => ?_, fun failure => ?_, fun hdistinct => ⟨fun order horder => ?_, ?_⟩⟩
  · have hcolumns : row.columns = names := by
      obtain ⟨cells, -, rfl⟩ := List.mem_map.1 hrow
      exact hnames
    rw [Row.isSome_get? (hwhole row hrow), hcolumns]
  · rw [Binder.bindTable, mapM_eq_ok_iff]
    simp only [Binder.bindRow_eq_ok_iff, binder]
  · rw [Binder.bindTable, mapM_eq_error_iff]
    simp only [Binder.exists_bindRow_eq_ok_iff, Binder.bindRow_eq_error_iff, binder]
  · refine bindTable_select hwhole (fun place hout name hname => ?_) (.inl (hnames ▸ hdistinct))
    have hplace := (List.getElem?_eq_some_iff.1 hname).1
    rw [horder.mem_iff, List.mem_range, ← hnames] at hout
    exact absurd hplace hout
  · intro places moreNames morePushes wider hselected houtside
    have hmore : wider.columns = moreNames := columns_pushAll moreNames morePushes
    have hkept : HasDistinctColumns (wider.select places).columns := by
      rwa [hselected, hnames]
    rw [← hselected]
    exact (bindTable_select (isWhole_pushAll moreNames morePushes)
      (fun place hout name hname => houtside place hout name (hmore ▸ hname)) (.inr hkept)).symm

/-- A note that nothing is bound to stands between the columns, which change places; the second row
has a text where a number is expected. -/
theorem bindTable_goes_by_name_of_moved_note :
    let names := ["Id".toList, "Name".toList]
    let moreNames := ["Name".toList, "Note".toList, "Id".toList]
    let columns : List (BoundColumn (List Text)) :=
      [⟨Int64, "ID".toList, fun id record => record ++ [Text.ofInt id.toInt]⟩,
        ⟨Bool, "Vip".toList, fun _ record => record ++ [[]]⟩,
        ⟨Text, "NAME".toList, fun name record => record ++ [name]⟩]
    let table := (ofColumns names).pushAll
      [[.int64 1, .text "Ann".toList], [.text "two".toList, .text "Bob".toList]]
    let wider := (ofColumns moreNames).pushAll
      [[.text "Ann".toList, .null, .int64 1], [.text "Bob".toList, .null, .text "two".toList]]
    HasDistinctColumns names ∧ [1, 0].Perm (List.range names.length) ∧
      wider.select [2, 0] = table ∧
      (∀ place ∉ [2, 0], ∀ name, moreNames[place]? = some name →
        ∀ column ∈ columns, Text.sameLetters name column.name = false) ∧
      (Binder.ofColumns columns).bindTable (table.select [1, 0]) =
        (Binder.ofColumns columns).bindTable table ∧
      (Binder.ofColumns columns).bindTable wider = (Binder.ofColumns columns).bindTable table := by
  intro names moreNames columns table wider
  have hdistinct : HasDistinctColumns names := by
    unfold HasDistinctColumns
    decide
  have horder : [1, 0].Perm (List.range names.length) := by decide
  have hselected : wider.select [2, 0] = table := rfl
  have hby := (bindTable_goes_by_name columns names
    [[.int64 1, .text "Ann".toList], [.text "two".toList, .text "Bob".toList]]).2.2.2 hdistinct
  have houtside : ∀ place ∉ [2, 0], ∀ name, moreNames[place]? = some name →
      ∀ column ∈ columns, Text.sameLetters name column.name = false := by
    intro place hout name hname
    match place with
    | 0 => simp at hout
    | 1 =>
      obtain rfl := Option.some.inj hname
      exact List.forall_mem_cons.2 ⟨by decide, List.forall_mem_cons.2 ⟨by decide,
        List.forall_mem_singleton.2 (by decide)⟩⟩
    | 2 => simp at hout
    | place + 3 => cases hname
  exact ⟨hdistinct, horder, hselected, houtside, hby.1 _ horder, hby.2 _ _ _ hselected houtside⟩

/-- What was set before a failure stays, and nothing behind it is called. -/
example :
    let columns : List (BoundColumn (List Text)) :=
      [⟨Text, ['b'], fun name record => record ++ [name]⟩,
        ⟨Bool, ['a'], fun _ record => record ++ [[]]⟩,
        ⟨Text, ['B'], fun name record => record ++ [name]⟩]
    (Binder.ofColumns columns).bindInto ⟨[['A'], ['B']], [.text ['x'], .text ['y']]⟩ [] =
      ⟨[['y']], some (.typeMismatch ['a'] "a boolean".toList)⟩ := rfl

end ResultTable

end SqlSelect
