import SqlSelect.Query.Parser
import SqlSelect.Proofs.Distinct
import SqlSelect.Proofs.Query.WritingFailure

/-!
Pages of the distinct values of a column. The window of such a page numbers rows, but keeps distinct
values, so its offset counts the rows in front of the page and not their values. Main statement: a
page is its block of the distinct values exactly if the rows in front of it repeat no value, neither
among themselves nor on the page.
-/

set_option autoImplicit false
set_option relaxedAutoImplicit false

namespace SqlSelect

/-! ## The window of a page -/

/-- A window `SELECT TOP top column FROM (rows) WHERE RowNumber > offset GROUP BY column`. -/
structure ColumnWindow where
  top : Nat
  column : Text
  rows : Text
  offset : Nat

namespace ColumnWindow

def sql (window : ColumnWindow) : Text :=
  Phrase.selectTop ++ Text.ofNat window.top ++ ' ' :: window.column ++ Phrase.derived ++
    window.rows ++ Phrase.asNumbered ++ Phrase.window ++ Text.ofNat window.offset ++
    Phrase.groups ++ window.column

section Values

variable {α : Type} [DecidableEq α] (window : ColumnWindow) (values : List α)

def beyond : List α :=
  ((values.zipIdx 1).filter fun (_, number) => window.offset < number).map Prod.fst

/-- What the window selects of rows with the given values of the column: the distinct values of the
rows beyond the offset, by first appearance, and the first of these. -/
def page : List α := (window.beyond values).eraseDups.take window.top

/-- Whether the rows in front of the window repeat no value, neither among themselves nor on the
page. Nothing is on a page behind the last row. -/
def StartsFresh : Prop :=
  values.length ≤ window.offset ∨
    (values.take window.offset).Nodup ∧
      ∀ value ∈ window.page values, value ∉ values.take window.offset

instance : Decidable (window.StartsFresh values) := inferInstanceAs (Decidable (_ ∨ _ ∧ _))

/-- The values that appear beyond the offset for the first time. -/
private def newcomers : List α :=
  (values.drop window.offset).eraseDups.filter (· ∉ values.take window.offset)

omit [DecidableEq α] in
private theorem beyond_eq : window.beyond values = values.drop window.offset := by
  have hfrom (start : Nat) :
      ((values.zipIdx (start + 1)).filter fun (_, number) => window.offset < number).map
        Prod.fst = values.drop (window.offset - start) := by
    induction values generalizing start with
    | nil => simp
    | cons value rest ih =>
      rw [List.zipIdx_cons]
      by_cases hstart : window.offset < start + 1
      · have hkeep : window.offset - start = 0 := by omega
        have hrest : window.offset - (start + 1) = 0 := by omega
        rw [List.filter_cons_of_pos (by simpa using hstart), List.map_cons, ih, hrest, hkeep]
        rfl
      · have hdrop : window.offset - start = window.offset - (start + 1) + 1 := by omega
        rw [List.filter_cons_of_neg (by simpa using hstart), ih, hdrop, List.drop_succ_cons]
  exact hfrom 0

private theorem page_eq :
    window.page values = (values.drop window.offset).eraseDups.take window.top := by
  rw [page, beyond_eq]

private theorem page_eq_nil (h : values.length ≤ window.offset) : window.page values = [] := by
  rw [page_eq, List.drop_eq_nil_of_le h, List.eraseDups_nil, List.take_nil]

end Values

end ColumnWindow

/-- A block of distinct values, when blocks of `size` values are numbered from zero. -/
def distinctBlock {α : Type} [DecidableEq α] (size index : Nat) (values : List α) : List α :=
  (values.eraseDups.drop (index * size)).take size

namespace ColumnWindow

variable {α : Type} [DecidableEq α] {window : ColumnWindow} {values : List α}

omit [DecidableEq α] in
private theorem length_take_offset (h : ¬values.length ≤ window.offset) :
    (values.take window.offset).length = window.offset := List.length_take_of_le (by omega)

private theorem mem_newcomers {value : α} : value ∈ window.newcomers values ↔
    value ∈ values.drop window.offset ∧ value ∉ values.take window.offset := by
  simp [newcomers]

private theorem nodup_newcomers : (window.newcomers values).Nodup := (nodup_eraseDups _).filter _

private theorem distinctBlock_eq {index : Nat} (hoffset : window.offset = index * window.top) :
    distinctBlock window.top index values =
      ((window.newcomers values).drop
        (window.offset - (values.take window.offset).eraseDups.length)).take window.top := by
  -- the block skips as many distinct values as there are rows in front of the window, so it
  -- skips newcomers if a value is repeated there
  have hall : values.eraseDups =
      (values.take window.offset).eraseDups ++ window.newcomers values := by
    conv_lhs => rw [← List.take_append_drop window.offset values]
    exact eraseDups_append_eq _ _
  have hshort := (eraseDups_sublist (values.take window.offset)).length_le
  have hfront := List.length_take_le window.offset values
  rw [distinctBlock, ← hoffset, hall, List.drop_append, List.drop_eq_nil_of_le (by omega),
    List.nil_append]

private theorem StartsFresh.page_eq_block {index : Nat} (h : window.StartsFresh values)
    (hoffset : window.offset = index * window.top) :
    window.page values = distinctBlock window.top index values := by
  by_cases hbehind : values.length ≤ window.offset
  · have hlength := (eraseDups_sublist values).length_le
    rw [window.page_eq_nil values hbehind, distinctBlock, ← hoffset,
      List.drop_eq_nil_of_le (by omega), List.take_nil]
  · obtain ⟨hnodup, hfresh⟩ := h.resolve_left hbehind
    rw [page_eq] at hfresh
    rw [page_eq, distinctBlock_eq hoffset, eraseDups_of_nodup hnodup, length_take_offset hbehind,
      Nat.sub_self, List.drop_zero, newcomers, take_filter_of_forall]
    intro value hvalue
    simpa using hfresh value hvalue

private theorem exists_first (hpositive : 0 < window.top) (h : ¬values.length ≤ window.offset) :
    ∃ first others, (values.drop window.offset).eraseDups = first :: others ∧
      first ∈ window.page values := by
  obtain ⟨first, rest, hdrop⟩ : ∃ first rest, values.drop window.offset = first :: rest :=
    List.exists_cons_of_ne_nil (by simpa using h)
  obtain ⟨top, htop⟩ := Nat.exists_eq_succ_of_ne_zero (Nat.pos_iff_ne_zero.1 hpositive)
  refine ⟨first, _, by rw [hdrop, List.eraseDups_cons], ?_⟩
  rw [page_eq, hdrop, htop, List.eraseDups_cons, List.take_succ_cons]
  exact List.mem_cons_self

private theorem startsFresh_of_page_eq_block {index : Nat} (hpositive : 0 < window.top)
    (hoffset : window.offset = index * window.top)
    (h : window.page values = distinctBlock window.top index values) :
    window.StartsFresh values := by
  -- the first value of the page is a newcomer, and no block behind the first newcomer has it
  refine or_iff_not_imp_left.2 fun hmore => ?_
  rw [distinctBlock_eq hoffset] at h
  have hskip (value : α) (hvalue : value ∈ window.page values) :
      value ∈ (window.newcomers values).drop
        (window.offset - (values.take window.offset).eraseDups.length) :=
    List.mem_of_mem_take (h ▸ hvalue)
  have hnew (value : α) (hvalue : value ∈ window.page values) :
      value ∉ values.take window.offset :=
    (mem_newcomers.1 (List.mem_of_mem_drop (hskip value hvalue))).2
  obtain ⟨first, others, hbeyond, hfirst⟩ := exists_first hpositive hmore
  have hnewcomers : window.newcomers values =
      first :: others.filter (· ∉ values.take window.offset) := by
    rw [newcomers, hbeyond, List.filter_cons_of_pos (by simpa using hnew first hfirst)]
  have hskipped := hskip first hfirst
  rw [hnewcomers] at hskipped
  have hnone := eq_zero_of_mem_drop (hnewcomers ▸ nodup_newcomers) hskipped
  have hfront := length_take_offset hmore
  refine ⟨?_, hnew⟩
  rw [← (eraseDups_sublist (values.take window.offset)).eq_of_length_le (by omega)]
  exact nodup_eraseDups _

private theorem StartsFresh.disjoint {later : ColumnWindow} (h : later.StartsFresh values)
    (hoffset : window.offset + window.top ≤ later.offset) :
    (window.page values).Disjoint (later.page values) := by
  by_cases hbehind : values.length ≤ later.offset
  · rw [later.page_eq_nil values hbehind]
    exact List.disjoint_nil_right _
  · obtain ⟨hnodup, hfresh⟩ := h.resolve_left hbehind
    have hfront := length_take_offset hbehind
    have hsplit : values.drop window.offset =
        (values.take later.offset).drop window.offset ++ values.drop later.offset := by
      rw [← List.drop_append_of_le_length (by omega), List.take_append_drop]
    have hbetween := (List.drop_sublist window.offset (values.take later.offset)).nodup hnodup
    have hlong : window.top ≤ ((values.take later.offset).drop window.offset).length := by
      rw [List.length_drop]
      omega
    refine fun value hvalue hlater => hfresh value hlater ?_
    rw [window.page_eq, hsplit, eraseDups_append_eq, eraseDups_of_nodup hbetween,
      List.take_append_of_le_length hlong] at hvalue
    exact List.mem_of_mem_drop (List.mem_of_mem_take hvalue)

end ColumnWindow

/-! ## The window that a query is paged with -/

namespace Query

def columnWindow (query : Query) (request : PageRequest) (field : Field) :
    Except SqlError ColumnWindow := do
  let offset ← query.pageOffset request
  let column ← field.sql false
  let rows ← query.numberedSql
  return { top := request.size.toNat, column, rows, offset := offset.toNat }

variable {query : Query} {request : PageRequest} {field : Field}

private theorem numbers_of_columnWindow {window : ColumnWindow}
    (h : query.columnWindow request field = .ok window) :
    0 < window.top ∧ window.top = request.size.toNat ∧
      window.offset = request.index.toNat * window.top := by
  obtain ⟨offset, hoffset, h⟩ := bind_eq_ok.1 h
  obtain ⟨column, -, h⟩ := bind_eq_ok.1 h
  obtain ⟨rows, -, h⟩ := bind_eq_ok.1 h
  obtain rfl := pure_eq_ok.1 h
  obtain ⟨-, hsize, hrows, -⟩ := pageOffset_eq_ok_iff.1 hoffset
  have hpositive : request.size.toNat ≠ 0 := fun hzero => hsize (UInt64.toNat_inj.1 hzero)
  exact ⟨Nat.pos_of_ne_zero hpositive, rfl, PageRequest.offset?_eq_some_iff.1 hrows⟩

/-- Whether a page of a query asks for the rows whose column has a value of the window. -/
def IsPagedBy (query : Query) (request : PageRequest) (field : Field) (window : ColumnWindow)
    (page : Text) : Prop :=
  query.columnWindow request field = .ok window ∧
    ∃ rows sorts total, query.sql false = .ok rows ∧ query.sortsSql false = .ok sorts ∧
      page = Phrase.select ++ Phrase.allFrom ++ rows ++ Phrase.asResults ++ window.column ++
        Phrase.isIn ++ window.sql ++ ')' :: Phrase.sorts ++ sorts ++ total

private theorem exists_isPagedBy {page : Text} (hungrouped : query.groups.isEmpty = true)
    (h : query.pageByColumnSql request field = .ok page) :
    ∃ window, query.IsPagedBy request field window page := by
  obtain ⟨offset, hoffset, h⟩ := bind_eq_ok.1 h
  obtain ⟨rows, hrows, h⟩ := bind_eq_ok.1 h
  obtain ⟨column, hcolumn, h⟩ := bind_eq_ok.1 h
  obtain ⟨text, hwindow, h⟩ := bind_eq_ok.1 h
  obtain ⟨sorts, hsorts, h⟩ := bind_eq_ok.1 h
  obtain ⟨total, -, h⟩ := bind_eq_ok.1 h
  obtain ⟨numbered, hnumbered, hwindow⟩ := bind_eq_ok.1 hwindow
  rw [numberedGroupsSql, if_pos hungrouped] at hnumbered
  refine ⟨⟨request.size.toNat, column, numbered, offset.toNat⟩, ?_, rows, sorts, total, hrows,
    hsorts, ?_⟩
  · rw [columnWindow, hoffset, hcolumn, hnumbered]
    rfl
  · rw [← pure_eq_ok.1 h, ← pure_eq_ok.1 hwindow, windowText, ColumnWindow.sql]
    simp only [List.append_assoc, List.cons_append]

/-- Two pages of the distinct values of a column, the second one behind the first. The window of
each keeps as many values as a page holds, behind as many rows as the pages in front of it hold
values. So a page is its block of the distinct values exactly if the rows in front of its window
repeat no value, neither among themselves nor on the page; then no earlier page has its values. -/
theorem pageByColumn_is_block_iff {later : PageRequest} {page laterPage : Text}
    (hungrouped : query.groups.isEmpty = true) (hsize : later.size = request.size)
    (hindex : request.index < later.index)
    (hpage : query.pageByColumnSql request field = .ok page)
    (hlater : query.pageByColumnSql later field = .ok laterPage) :
    ∃ window next : ColumnWindow,
      query.IsPagedBy request field window page ∧ query.IsPagedBy later field next laterPage ∧
      (window.top = request.size.toNat ∧
        window.offset = request.index.toNat * request.size.toNat) ∧
      (next.top = request.size.toNat ∧
        next.offset = later.index.toNat * request.size.toNat) ∧
      ∀ {α : Type} [DecidableEq α] (values : List α),
        (window.page values = distinctBlock request.size.toNat request.index.toNat values ↔
          window.StartsFresh values) ∧
        (next.page values = distinctBlock request.size.toNat later.index.toNat values ↔
          next.StartsFresh values) ∧
        (next.StartsFresh values → (window.page values).Disjoint (next.page values)) := by
  obtain ⟨window, hwindow⟩ := exists_isPagedBy hungrouped hpage
  obtain ⟨next, hnext⟩ := exists_isPagedBy hungrouped hlater
  obtain ⟨hpositive, htop, hoffset⟩ := numbers_of_columnWindow hwindow.1
  obtain ⟨hpositive', htop', hoffset'⟩ := numbers_of_columnWindow hnext.1
  have hsame : next.top = request.size.toNat := by rw [htop', hsize]
  have hbehind : window.offset + window.top ≤ next.offset := by
    have hpages := Nat.mul_le_mul_right request.size.toNat
      (Nat.succ_le_of_lt (UInt64.lt_iff_toNat_lt.1 hindex))
    rw [hoffset, hoffset', htop, hsame, ← Nat.succ_mul]
    exact hpages
  refine ⟨window, next, hwindow, hnext, ⟨htop, htop ▸ hoffset⟩, ⟨hsame, hsame ▸ hoffset'⟩,
    fun values => ⟨?_, ?_, fun hfresh => hfresh.disjoint hbehind⟩⟩
  · rw [← htop]
    exact ⟨ColumnWindow.startsFresh_of_page_eq_block hpositive hoffset,
      fun hfresh => hfresh.page_eq_block hoffset⟩
  · rw [← hsame]
    exact ⟨ColumnWindow.startsFresh_of_page_eq_block hpositive' hoffset',
      fun hfresh => hfresh.page_eq_block hoffset'⟩

/-- With one value a page, a customer with two orders is on the first page and on the second. -/
theorem pageByColumn_is_block_iff_of_repeated_customer :
    ∃ query page laterPage window next,
      Query.parse "SELECT * FROM Orders ORDER BY CustomerId".toList = .ok query ∧
      query.pageByColumnSql { size := 1 } { name := "CustomerId".toList } = .ok page ∧
      query.pageByColumnSql { size := 1, index := 1 } { name := "CustomerId".toList } =
        .ok laterPage ∧
      query.IsPagedBy { size := 1 } { name := "CustomerId".toList } window page ∧
      query.IsPagedBy { size := 1, index := 1 } { name := "CustomerId".toList } next laterPage ∧
      window.page [1, 1, 2] = [1] ∧ next.page [1, 1, 2] = [1] ∧
      next.page [1, 1, 2] ≠ distinctBlock 1 1 [1, 1, 2] := by
  let query : Query := {
    selectsAll := true
    tables := [{ name := "Orders".toList }]
    sorts := [{ field := { name := "CustomerId".toList } }] }
  obtain ⟨window, next, hwindow, hnext, ⟨htop, hoffset⟩, ⟨htop', hoffset'⟩, hvalues⟩ :=
    @pageByColumn_is_block_iff query { size := 1 } { name := "CustomerId".toList }
      { size := 1, index := 1 } _ _ rfl rfl (by decide) rfl rfl
  refine ⟨query, _, _, window, next, rfl, rfl, rfl, hwindow, hnext, ?_, ?_, ?_⟩
  · rw [window.page_eq, htop, hoffset]
    decide
  · rw [next.page_eq, htop', hoffset']
    decide
  · intro hblock
    have hfresh := ((hvalues [1, 1, 2]).2.1).1 hblock
    rw [ColumnWindow.StartsFresh, next.page_eq, htop', hoffset'] at hfresh
    exact absurd hfresh (by decide)

end Query

end SqlSelect
