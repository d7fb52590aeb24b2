import SqlSelect.Text.Comment
import SqlSelect.Text.Search
import SqlSelect.Proofs.Text.Joining
import SqlSelect.Proofs.Text.Splitting

/-!
No scanner makes an opening parenthesis. A scanner that cuts returns a part of its text; one that
puts words together again counts as many opening parentheses as the words hold. What stands inside
parentheses has lost one.
-/

set_option autoImplicit false
set_option relaxedAutoImplicit false

namespace SqlSelect.Text

/-! ## Scanners that cut -/

theorem trim_sublist (text : Text) : (trim text).Sublist text := by
  have hback := (List.dropWhile_sublist isBlank (l := (trimStart text).reverse)).reverse
  rw [List.reverse_reverse] at hback
  exact hback.trans (List.dropWhile_sublist isBlank)

private theorem beforeComment_sublist (text : Text) : (beforeComment text).Sublist text := by
  induction text using beforeComment.induct with
  | case1 rest => exact List.nil_sublist _
  | case2 => exact List.Sublist.refl _
  | case3 c rest hc ih =>
    rw [beforeComment]
    · exact ih.cons_cons c
    · exact hc

theorem sublist_of_mem_splitFrom {separator : Char} {start : Int} {text piece : Text}
    (h : piece ∈ splitFrom separator start text) : piece.Sublist text := by
  induction text generalizing start piece with
  | nil => rw [List.mem_singleton.1 h]
  | cons c rest ih =>
    rw [splitFrom] at h
    split at h
    · rcases List.mem_cons.1 h with rfl | hmem
      · exact List.nil_sublist _
      · exact (ih hmem).cons c
    · generalize hsplit : splitFrom separator (start + charDepth c) rest = pieces at h
      cases pieces with
      | nil => simp at h
      | cons first others =>
        rw [List.modifyHead_cons] at h
        rcases List.mem_cons.1 h with rfl | hmem
        · exact (ih (hsplit ▸ List.mem_cons_self)).cons_cons c
        · exact (ih (hsplit ▸ List.mem_cons_of_mem _ hmem)).cons c

theorem sublist_of_mem_items {text entry : Text} (h : entry ∈ items text) :
    entry.Sublist text := by
  obtain ⟨piece, hpiece, rfl⟩ := List.mem_map.1 (List.mem_filter.1 h).1
  exact (trim_sublist piece).trans (sublist_of_mem_splitFrom hpiece)

theorem sublist_of_cut? {pattern text before after : Text}
    (h : cut? pattern text = some (before, after)) : after.Sublist text := by
  induction text generalizing before with
  | nil =>
    rw [cut?] at h
    split at h
    · simp only [Option.some.injEq, Prod.mk.injEq] at h
      rw [← h.2]
    · simp at h
  | cons c rest ih =>
    rw [cut?] at h
    split at h
    · simp only [Option.some.injEq, Prod.mk.injEq] at h
      rw [← h.2]
      exact List.drop_sublist _ _
    · obtain ⟨⟨front, back⟩, hcut, hparts⟩ := Option.map_eq_some_iff.1 h
      simp only [Prod.mk.injEq] at hparts
      obtain ⟨-, rfl⟩ := hparts
      exact (ih hcut).cons c

theorem sublist_of_cutLast? {p : Char → Bool} {text before after : Text}
    (h : cutLast? p text = some (before, after)) : before.Sublist text := by
  induction text generalizing before with
  | nil => simp [cutLast?] at h
  | cons c rest ih =>
    rw [cutLast?] at h
    split at h
    · next front back hcut =>
      simp only [Option.some.injEq, Prod.mk.injEq] at h
      rw [← h.1]
      exact (ih (h.2 ▸ hcut)).cons_cons c
    · split at h
      · simp only [Option.some.injEq, Prod.mk.injEq] at h
        rw [← h.1]
        exact List.nil_sublist _
      · simp at h

theorem sublist_of_inside? {opening closing : Char} {text inner : Text}
    (h : inside? opening closing text = some inner) : (opening :: inner).Sublist text := by
  cases text with
  | nil => simp [inside?] at h
  | cons c rest =>
    rw [inside?] at h
    split at h
    · next hends =>
      rw [← Option.some.inj h, hends.1]
      exact (List.dropLast_sublist rest).cons_cons opening
    · simp at h

/-! ## Scanners that put words together -/

theorem count_flatten_le_of_sublist {left right : List Text} (h : left.Sublist right) :
    left.flatten.count '(' ≤ right.flatten.count '(' := by
  induction h with
  | slnil => exact Nat.le_refl _
  | cons word _ ih =>
    rw [List.flatten_cons, List.count_append]
    omega
  | cons_cons word _ ih =>
    rw [List.flatten_cons, List.flatten_cons, List.count_append, List.count_append]
    omega

private theorem count_joinWith {separator : Text} (h : '(' ∉ separator) (pieces : List Text) :
    (joinWith separator pieces).count '(' = pieces.flatten.count '(' := by
  induction pieces with
  | nil => rfl
  | cons piece rest ih =>
    by_cases hrest : rest = []
    · simp [hrest]
    · rw [joinWith_cons_of_ne_nil separator piece hrest, List.count_append, List.count_append, ih,
        List.count_eq_zero_of_not_mem h, List.flatten_cons, List.count_append]
      omega

theorem count_unwords (pieces : List Text) :
    (unwords pieces).count '(' = pieces.flatten.count '(' := count_joinWith (by decide) pieces

theorem count_flatten_words (text : Text) : (words text).flatten.count '(' = text.count '(' := by
  rw [flatten_words, List.count_filter (by decide)]

theorem count_withoutComments_le (text : Text) :
    (withoutComments text).count '(' ≤ text.count '(' := by
  have hlines (lines : List Text) :
      (lines.map beforeComment).flatten.Sublist lines.flatten := by
    induction lines with
    | nil => exact List.Sublist.refl _
    | cons line rest ih => exact (beforeComment_sublist line).append ih
  calc (withoutComments text).count '('
      = ((text.splitOn '\n').map beforeComment).flatten.count '(' := count_unwords _
    _ ≤ (text.splitOn '\n').flatten.count '(' := (hlines _).count_le '('
    _ = (joinWith ['\n'] (text.splitOn '\n')).count '(' := (count_joinWith (by decide) _).symm
    _ = text.count '(' := by rw [joinWith, List.intercalate_splitOn]

end SqlSelect.Text
