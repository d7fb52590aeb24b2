import Mathlib.Data.List.Induction
import Mathlib.Data.List.Nodup

/-!
The distinct values of a list, each at the place of its first copy.
-/

set_option autoImplicit false
set_option relaxedAutoImplicit false

namespace SqlSelect

variable {α : Type} [BEq α] [LawfulBEq α]

theorem eraseDups_concat (values : List α) (last : α) :
    (values ++ [last]).eraseDups =
      if last ∈ values then values.eraseDups else values.eraseDups ++ [last] := by
  rw [List.eraseDups_append, List.removeAll]
  by_cases hmem : last ∈ values <;> simp [hmem, List.eraseDups_cons]

theorem nodup_eraseDups (values : List α) : values.eraseDups.Nodup := by
  induction values using List.reverseRecOn with
  | nil => exact List.nodup_nil
  | append_singleton front last ih =>
    rw [eraseDups_concat]
    split
    · exact ih
    · next hnew =>
      have happart (value : α) (hvalue : value ∈ front.eraseDups) : value ≠ last := by
        rintro rfl
        exact hnew (List.mem_eraseDups.1 hvalue)
      exact List.nodup_append.2 ⟨ih, List.nodup_singleton last, by simpa using happart⟩

theorem eraseDups_sublist (values : List α) : values.eraseDups.Sublist values := by
  induction values using List.reverseRecOn with
  | nil => exact List.Sublist.refl _
  | append_singleton front last ih =>
    rw [eraseDups_concat]
    split
    · exact ih.trans (List.sublist_append_left front [last])
    · exact ih.append (List.Sublist.refl [last])

theorem eraseDups_of_nodup {values : List α} (h : values.Nodup) : values.eraseDups = values := by
  induction values using List.reverseRecOn with
  | nil => rfl
  | append_singleton front last ih =>
    obtain ⟨hfront, -, hlast⟩ := List.nodup_append.1 h
    have hnew : last ∉ front := fun hmem => hlast last hmem last (List.mem_singleton_self last) rfl
    rw [eraseDups_concat, if_neg hnew, ih hfront]

private theorem filter_eraseDups (p : α → Bool) (values : List α) :
    (values.filter p).eraseDups = values.eraseDups.filter p := by
  induction values using List.reverseRecOn with
  | nil => rfl
  | append_singleton front last ih =>
    rw [List.filter_append, eraseDups_concat]
    by_cases hp : p last = true
    · rw [List.filter_cons_of_pos hp, List.filter_nil, eraseDups_concat, ih]
      by_cases hmem : last ∈ front <;> simp [hmem, hp]
    · rw [List.filter_cons_of_neg hp, List.filter_nil, List.append_nil, ih]
      by_cases hmem : last ∈ front <;> simp [hmem, hp]

omit [BEq α] [LawfulBEq α] in
theorem take_filter_of_forall {p : α → Bool} {n : Nat} {values : List α}
    (h : ∀ value ∈ values.take n, p value = true) :
    (values.filter p).take n = values.take n := by
  induction values generalizing n with
  | nil => simp
  | cons value rest ih =>
    cases n with
    | zero => rfl
    | succ n =>
      have hvalue := h value List.mem_cons_self
      rw [List.filter_cons_of_pos hvalue, List.take_succ_cons, List.take_succ_cons,
        ih fun other hother => h other (List.mem_cons_of_mem _ hother)]

omit [BEq α] [LawfulBEq α] in
theorem eq_zero_of_mem_drop {first : α} {rest : List α} {n : Nat} (hnodup : (first :: rest).Nodup)
    (hmem : first ∈ (first :: rest).drop n) : n = 0 := by
  cases n with
  | zero => rfl
  | succ n =>
    rw [List.drop_succ_cons] at hmem
    exact absurd (List.mem_of_mem_drop hmem) (List.nodup_cons.1 hnodup).1

theorem eraseDups_append_eq (front back : List α) :
    (front ++ back).eraseDups = front.eraseDups ++ back.eraseDups.filter (· ∉ front) := by
  rw [List.eraseDups_append, List.removeAll, filter_eraseDups]
  simp

end SqlSelect
