import SqlSelect.Proofs.Query.Written
import Mathlib.Data.List.Forall2

/-!
Lists gone through by a function that may fail. Main statement: either every element succeeds, or
the failure is that of the first element that fails.
-/

set_option autoImplicit false
set_option relaxedAutoImplicit false

namespace SqlSelect

variable {α β : Type} {f : α → Except SqlError β} {elements : List α}

private theorem bind_eq_error {first : Except SqlError α} {next : α → Except SqlError β}
    {failure : SqlError} : (first >>= next) = .error failure ↔
      first = .error failure ∨ ∃ a, first = .ok a ∧ next a = .error failure := by
  cases first with
  | error cause => simp [bind, Except.bind]
  | ok a => simp [bind, Except.bind]

private theorem pure_ne_error {a : α} {failure : SqlError} :
    (pure a : Except SqlError α) ≠ .error failure := by
  rintro ⟨⟩

theorem mapM_congr_of_mem {g : α → Except SqlError β}
    (h : ∀ element ∈ elements, f element = g element) : elements.mapM f = elements.mapM g := by
  induction elements with
  | nil => rfl
  | cons element rest ih =>
    obtain ⟨helement, hrest⟩ := List.forall_mem_cons.1 h
    rw [List.mapM_cons, List.mapM_cons, helement, ih hrest]

private theorem mapM_cons_eq_ok_iff {element : α} {rest : List α} {results : List β} :
    (element :: rest).mapM f = .ok results ↔ ∃ result others,
      f element = .ok result ∧ rest.mapM f = .ok others ∧ results = result :: others := by
  rw [List.mapM_cons, bind_eq_ok]
  simp only [bind_eq_ok, pure_eq_ok]
  constructor
  · rintro ⟨result, helement, others, hrest, rfl⟩
    exact ⟨result, others, helement, hrest, rfl⟩
  · rintro ⟨result, others, helement, hrest, rfl⟩
    exact ⟨result, helement, others, hrest, rfl⟩

private theorem mapM_cons_eq_error_iff {element : α} {rest : List α} {failure : SqlError} :
    (element :: rest).mapM f = .error failure ↔
      f element = .error failure ∨ (∃ result, f element = .ok result) ∧
        rest.mapM f = .error failure := by
  rw [List.mapM_cons, bind_eq_error]
  simp only [bind_eq_error, pure_ne_error, and_false, exists_false, or_false, exists_and_right]

theorem mapM_eq_ok_iff {results : List β} :
    elements.mapM f = .ok results ↔
      List.Forall₂ (fun element result => f element = .ok result) elements results := by
  induction elements generalizing results with
  | nil => rw [List.mapM_nil, pure_eq_ok, List.forall₂_nil_left_iff, eq_comm]
  | cons element rest ih =>
    rw [mapM_cons_eq_ok_iff, List.forall₂_cons_left_iff]
    simp only [ih]

theorem mapM_eq_error_iff {failure : SqlError} :
    elements.mapM f = .error failure ↔ ∃ front element back, elements = front ++ element :: back ∧
      (∀ earlier ∈ front, ∃ result, f earlier = .ok result) ∧ f element = .error failure := by
  induction elements with
  | nil => simp [pure_ne_error]
  | cons first rest ih =>
    rw [mapM_cons_eq_error_iff, ih]
    constructor
    · rintro (hfirst | ⟨hfirst, front, element, back, rfl, hfront, helement⟩)
      · exact ⟨[], first, rest, rfl, by simp, hfirst⟩
      · exact ⟨first :: front, element, back, rfl, List.forall_mem_cons.2 ⟨hfirst, hfront⟩,
          helement⟩
    · rintro ⟨front, element, back, hsplit, hfront, helement⟩
      cases front with
      | nil =>
        obtain ⟨rfl, rfl⟩ := List.cons.inj hsplit
        exact .inl helement
      | cons head front =>
        obtain ⟨rfl, rfl⟩ := List.cons.inj hsplit
        obtain ⟨hhead, hothers⟩ := List.forall_mem_cons.1 hfront
        exact .inr ⟨hhead, front, element, back, rfl, hothers, helement⟩

end SqlSelect
