import SqlSelect.Text.Comment
import SqlSelect.Proofs.Text.Nested
import SqlSelect.Proofs.Text.Spacing
import Mathlib.Data.List.Chain

/-!
Tidy texts: single spaces between words, well nested parentheses, no comment. Main statement: tidy
texts can be put together with spaces, commas and parentheses.
-/

set_option autoImplicit false
set_option relaxedAutoImplicit false

namespace SqlSelect.Text

/-- Blanks stand between words only, and each of them is one space. -/
structure IsSpaced (text : Text) : Prop where
  filled : text ≠ []
  spaced : unwords (words text) = text

def IsUncommented (text : Text) : Prop := text.IsChain fun c d => ¬(c = '-' ∧ d = '-')

/-- A text that stays as it is when its comments and its spare blanks are taken out, and that can
stand between parentheses. -/
structure IsTidy (text : Text) : Prop where
  spaced : text.IsSpaced
  nested : text.IsNested
  uncommented : text.IsUncommented

instance (text : Text) : Decidable text.IsSpaced :=
  decidable_of_iff (text ≠ [] ∧ unwords (words text) = text)
    ⟨fun h => ⟨h.1, h.2⟩, fun h => ⟨h.filled, h.spaced⟩⟩

instance (text : Text) : Decidable text.IsUncommented :=
  inferInstanceAs (Decidable (text.IsChain fun c d => ¬(c = '-' ∧ d = '-')))

instance (text : Text) : Decidable text.IsTidy :=
  decidable_of_iff (text.IsSpaced ∧ text.IsNested ∧ text.IsUncommented)
    ⟨fun h => ⟨h.1, h.2.1, h.2.2⟩, fun h => ⟨h.spaced, h.nested, h.uncommented⟩⟩

theorem IsSpaced.words_ne_nil {text : Text} (h : text.IsSpaced) : words text ≠ [] := by
  intro hnone
  have htext := h.spaced
  rw [hnone] at htext
  exact h.filled htext.symm

theorem isSpaced_of_words {text : Text} {pieces : List Text} (hne : pieces ≠ [])
    (hwords : ∀ word ∈ pieces, word.IsWord) (h : unwords pieces = text) : text.IsSpaced := by
  have hread : words text = pieces := by rw [← h, words_unwords hwords]
  refine ⟨?_, by rw [hread, h]⟩
  rintro rfl
  exact hne (hread.symm.trans words_nil)

theorem IsWord.isSpaced {word : Text} (h : word.IsWord) : word.IsSpaced :=
  ⟨h.1, by rw [words_of_isWord h]; simp [unwords]⟩

theorem IsSpaced.append_space {left right : Text} (hleft : left.IsSpaced)
    (hright : right.IsSpaced) : IsSpaced (left ++ ' ' :: right) := by
  refine ⟨by simp, ?_⟩
  rw [words_append_space, unwords_append hleft.words_ne_nil hright.words_ne_nil, hleft.spaced,
    hright.spaced]

private theorem IsSpaced.words_word_append {word text : Text} (hword : word.IsWord)
    (h : text.IsSpaced) :
    ∃ first rest, words text = first :: rest ∧ words (word ++ text) = (word ++ first) :: rest ∧
      IsSpaced (word ++ text) := by
  obtain ⟨first, rest, htext⟩ := List.exists_cons_of_ne_nil h.words_ne_nil
  have hpieces (piece : Text) (hmem : piece ∈ first :: rest) : piece.IsWord :=
    isWord_of_mem_words (htext ▸ hmem)
  have hjoined : ∀ piece ∈ (word ++ first) :: rest, piece.IsWord := by
    intro piece hmem
    rcases List.mem_cons.1 hmem with rfl | hmem
    · exact hword.append (hpieces first List.mem_cons_self)
    · exact hpieces piece (List.mem_cons_of_mem _ hmem)
  have hspelled : unwords ((word ++ first) :: rest) = word ++ text := by
    rw [← h.spaced, htext]
    by_cases hrest : rest = []
    · simp [hrest, unwords]
    · rw [unwords_cons _ hrest, unwords_cons _ hrest, List.append_assoc]
  exact ⟨first, rest, htext, by rw [← hspelled, words_unwords hjoined],
    isSpaced_of_words (by simp) hjoined hspelled⟩

private theorem IsSpaced.words_append_word {word text : Text} (hword : word.IsWord)
    (h : text.IsSpaced) :
    ∃ front last, words text = front ++ [last] ∧ words (text ++ word) = front ++ [last ++ word] ∧
      IsSpaced (text ++ word) := by
  obtain ⟨front, last, htext⟩ := (List.eq_nil_or_concat' (words text)).resolve_left h.words_ne_nil
  have hpieces (piece : Text) (hmem : piece ∈ front ++ [last]) : piece.IsWord :=
    isWord_of_mem_words (htext ▸ hmem)
  have hjoined : ∀ piece ∈ front ++ [last ++ word], piece.IsWord := by
    intro piece hmem
    rcases List.mem_append.1 hmem with hmem | hmem
    · exact hpieces piece (List.mem_append_left _ hmem)
    · rw [List.mem_singleton.1 hmem]
      exact (hpieces last (by simp)).append hword
  have hspelled : unwords (front ++ [last ++ word]) = text ++ word := by
    rw [← h.spaced, htext]
    by_cases hfront : front = []
    · simp [hfront, unwords]
    · rw [unwords_append hfront (by simp), unwords_append hfront (by simp), List.append_assoc]
      simp [unwords]
  exact ⟨front, last, htext, by rw [← hspelled, words_unwords hjoined],
    isSpaced_of_words (by simp) hjoined hspelled⟩

private theorem IsSpaced.exists_head {text : Text} (h : text.IsSpaced) :
    ∃ c back, text = c :: back ∧ isBlank c = false := by
  obtain ⟨first, rest, htext⟩ := List.exists_cons_of_ne_nil h.words_ne_nil
  have hfirst : first.IsWord := isWord_of_mem_words (htext ▸ List.mem_cons_self)
  obtain ⟨c, tail, rfl⟩ := List.exists_cons_of_ne_nil hfirst.1
  have hc := hfirst.2 c List.mem_cons_self
  rw [← h.spaced, htext]
  by_cases hrest : rest = []
  · exact ⟨c, tail, by simp [hrest, unwords], hc⟩
  · exact ⟨c, _, by rw [unwords_cons _ hrest, List.cons_append], hc⟩

private theorem IsSpaced.exists_last {text : Text} (h : text.IsSpaced) :
    ∃ front c, text = front ++ [c] ∧ isBlank c = false := by
  obtain ⟨front, last, htext⟩ := (List.eq_nil_or_concat' (words text)).resolve_left h.words_ne_nil
  have hlast : last.IsWord := isWord_of_mem_words (by rw [htext]; simp)
  obtain ⟨body, c, rfl⟩ := (List.eq_nil_or_concat' last).resolve_left hlast.1
  have hc := hlast.2 c (by simp)
  rw [← h.spaced, htext]
  by_cases hfront : front = []
  · exact ⟨body, c, by simp [hfront, unwords], hc⟩
  · refine ⟨unwords front ++ ' ' :: body, c, ?_, hc⟩
    rw [unwords_append hfront (by simp)]
    simp [unwords]

theorem IsSpaced.isEdged {text : Text} (h : text.IsSpaced) : text.IsEdged :=
  ⟨h.exists_head, h.exists_last⟩

private theorem IsSpaced.trimEnd_eq {text : Text} (h : text.IsSpaced) : trimEnd text = text := by
  obtain ⟨front, c, rfl, hc⟩ := h.exists_last
  rw [trimEnd, List.reverse_concat, List.dropWhile_cons_of_neg (by simp [hc])]
  simp

private theorem IsSpaced.trim_append {text : Text} (h : text.IsSpaced) (back : Text) :
    trim (text ++ back) = trimEnd (text ++ back) := by
  obtain ⟨c, rest, rfl, hc⟩ := h.exists_head
  rw [trim, trimStart, List.cons_append, List.dropWhile_cons_of_neg (by simp [hc])]

theorem IsSpaced.trim_eq {text : Text} (h : text.IsSpaced) : trim text = text := h.isEdged.trim_eq

theorem IsSpaced.trim_append_space {text : Text} (h : text.IsSpaced) :
    trim (text ++ [' ']) = text := by
  have hend : trimEnd (text ++ [' ']) = trimEnd text := by
    rw [trimEnd, List.reverse_concat, List.dropWhile_cons_of_pos (by decide)]
    rfl
  rw [h.trim_append, hend, h.trimEnd_eq]

private theorem eq_space_of_mem_unwords {pieces : List Text}
    (hpieces : ∀ word ∈ pieces, word.IsWord)
    {c : Char} (hmem : c ∈ unwords pieces) (hblank : isBlank c = true) : c = ' ' := by
  induction pieces with
  | nil => simp [unwords] at hmem
  | cons word rest ih =>
    have hword : c ∉ word := fun hmem => by
      rw [(hpieces word List.mem_cons_self).2 c hmem] at hblank
      exact Bool.noConfusion hblank
    by_cases hrest : rest = []
    · rw [hrest] at hmem
      exact absurd (by simpa [unwords] using hmem) hword
    · rw [unwords_cons word hrest, List.mem_append, List.mem_cons] at hmem
      rcases hmem with hmem | rfl | hmem
      · exact absurd hmem hword
      · rfl
      · exact ih (fun other hother => hpieces other (List.mem_cons_of_mem _ hother)) hmem

private theorem isUncommented_append {left right : Text} :
    IsUncommented (left ++ right) ↔ left.IsUncommented ∧ right.IsUncommented ∧
      ∀ c ∈ left.getLast?, ∀ d ∈ right.head?, ¬(c = '-' ∧ d = '-') := List.isChain_append

theorem isUncommented_of_notMem {text : Text} (h : '-' ∉ text) : text.IsUncommented := by
  induction text with
  | nil => exact .nil
  | cons c text ih =>
    obtain ⟨hc, htext⟩ := not_or.1 (mt List.mem_cons.2 h)
    have hsplit : c :: text = [c] ++ text := rfl
    rw [hsplit, isUncommented_append]
    refine ⟨.singleton c, ih htext, fun d hd e _ => ?_⟩
    rintro ⟨rfl, -⟩
    exact hc (Option.some.inj hd).symm

theorem IsUncommented.append_of_head {left right : Text} (hleft : left.IsUncommented)
    (hright : right.IsUncommented) (hhead : right.head? ≠ some '-') :
    IsUncommented (left ++ right) := by
  refine isUncommented_append.2 ⟨hleft, hright, fun c _ d hd => ?_⟩
  rintro ⟨-, rfl⟩
  exact hhead hd

theorem IsUncommented.append_of_last {left right : Text} (hleft : left.IsUncommented)
    (hright : right.IsUncommented) (hlast : left.getLast? ≠ some '-') :
    IsUncommented (left ++ right) := by
  refine isUncommented_append.2 ⟨hleft, hright, fun c hc d _ => ?_⟩
  rintro ⟨rfl, -⟩
  exact hlast hc

theorem beforeComment_eq {text : Text} (h : text.IsUncommented) : beforeComment text = text := by
  fun_induction beforeComment text with
  | case1 rest => simp [IsUncommented] at h
  | case2 => rfl
  | case3 c rest _ ih => rw [ih h.tail]

theorem IsTidy.notMem_lineFeed {text : Text} (h : text.IsTidy) : '\n' ∉ text := by
  intro hmem
  have hspace : '\n' = ' ' := eq_space_of_mem_unwords (fun _ => isWord_of_mem_words)
    (by rwa [h.spaced.spaced]) (by decide)
  exact absurd hspace (by decide)

theorem IsUncommented.withoutComments_eq {text : Text} (h : text.IsUncommented)
    (hline : '\n' ∉ text) : withoutComments text = text := by
  have hother : ∀ c ∈ text, (c == '\n') = false := by
    intro c hc
    rw [beq_eq_false_iff_ne]
    rintro rfl
    exact hline hc
  rw [withoutComments, List.splitOn, List.splitOnP_eq_singleton hother, List.map_singleton,
    beforeComment_eq h]
  simp [unwords]

theorem IsTidy.withoutComments_eq {text : Text} (h : text.IsTidy) : withoutComments text = text :=
  h.uncommented.withoutComments_eq h.notMem_lineFeed

theorem IsTidy.append_space {left right : Text} (hleft : left.IsTidy) (hright : right.IsTidy) :
    IsTidy (left ++ ' ' :: right) where
  spaced := hleft.spaced.append_space hright.spaced
  nested := by
    have hspace : IsNested [' '] := isNested_of_notMem (by decide) (by decide)
    exact hleft.nested.append (hspace.append hright.nested)
  uncommented := by
    have hspace : IsUncommented [' '] := .singleton ' '
    have hback : IsUncommented ([' '] ++ right) :=
      hspace.append_of_last hright.uncommented (by decide)
    exact hleft.uncommented.append_of_head hback (by simp)

theorem IsTidy.append_comma {text : Text} (h : text.IsTidy) :
    IsTidy (text ++ [',']) ∧ ∃ front last, words text = front ++ [last] ∧
      words (text ++ [',']) = front ++ [last ++ [',']] := by
  have hcomma : Text.IsWord [','] := by decide
  obtain ⟨front, last, hwords, hjoined, hspaced⟩ := h.spaced.words_append_word hcomma
  have hnested : IsNested [','] := isNested_of_notMem (by decide) (by decide)
  exact ⟨⟨hspaced, h.nested.append hnested,
    h.uncommented.append_of_head (.singleton ',') (by decide)⟩, front, last, hwords, hjoined⟩

theorem IsTidy.parentheses {text : Text} (h : text.IsTidy) : IsTidy ('(' :: text ++ [')']) where
  spaced := by
    have hopening : Text.IsWord ['('] := by decide
    have hclosing : Text.IsWord [')'] := by decide
    obtain ⟨_, _, -, -, hfront⟩ := h.spaced.words_word_append hopening
    obtain ⟨_, _, -, -, hwhole⟩ := hfront.words_append_word hclosing
    exact hwhole
  nested := h.nested.parentheses
  uncommented := by
    have hopening : IsUncommented ['('] := .singleton '('
    have hfront : IsUncommented (['('] ++ text) :=
      hopening.append_of_last h.uncommented (by decide)
    exact hfront.append_of_head (.singleton ')') (by decide)

end SqlSelect.Text
