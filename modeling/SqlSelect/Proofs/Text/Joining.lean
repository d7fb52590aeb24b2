import SqlSelect.Text.Blank

/-!
Pieces with a separator between neighbours, piece by piece.
-/

set_option autoImplicit false
set_option relaxedAutoImplicit false

namespace SqlSelect.Text

@[simp] theorem joinWith_nil (separator : Text) : joinWith separator [] = [] := rfl

@[simp] theorem joinWith_singleton (separator piece : Text) :
    joinWith separator [piece] = piece := List.intercalate_singleton

theorem joinWith_cons_cons (separator first second : Text) (rest : List Text) :
    joinWith separator (first :: second :: rest) =
      first ++ separator ++ joinWith separator (second :: rest) := List.intercalate_cons_cons

theorem joinWith_cons_of_ne_nil (separator first : Text) {rest : List Text} (h : rest ≠ []) :
    joinWith separator (first :: rest) = first ++ separator ++ joinWith separator rest :=
  List.intercalate_cons_of_ne_nil h

theorem joinWith_eq_flatMap (separator piece : Text) (rest : List Text) :
    joinWith separator (piece :: rest) = piece ++ rest.flatMap (separator ++ ·) := by
  induction rest generalizing piece with
  | nil => simp
  | cons next rest ih =>
    rw [joinWith_cons_cons, ih, List.flatMap_cons, List.append_assoc, List.append_assoc]

theorem joinWith_ne_nil {separator piece : Text} {pieces : List Text} (hmem : piece ∈ pieces)
    (hne : piece ≠ []) : joinWith separator pieces ≠ [] := by
  induction pieces with
  | nil => simp at hmem
  | cons first rest ih =>
    rcases List.mem_cons.1 hmem with rfl | hrest
    · cases rest with
      | nil => simpa using hne
      | cons second more => simp [joinWith_cons_cons, hne]
    · rw [joinWith_cons_of_ne_nil separator first (List.ne_nil_of_mem hrest)]
      simp [ih hrest]

theorem exists_mem_of_mem_joinWith {separator : Text} {pieces : List Text} {c : Char}
    (h : c ∈ joinWith separator pieces) (hc : c ∉ separator) : ∃ piece ∈ pieces, c ∈ piece := by
  induction pieces with
  | nil => simp at h
  | cons first rest ih =>
    by_cases hrest : rest = []
    · rw [hrest, joinWith_singleton] at h
      exact ⟨first, List.mem_cons_self, h⟩
    · rw [joinWith_cons_of_ne_nil separator first hrest, List.mem_append, List.mem_append] at h
      rcases h with (hfirst | hmiddle) | hlater
      · exact ⟨first, List.mem_cons_self, hfirst⟩
      · exact absurd hmiddle hc
      · obtain ⟨piece, hpiece, hmem⟩ := ih hlater
        exact ⟨piece, List.mem_cons_of_mem _ hpiece, hmem⟩

end SqlSelect.Text
