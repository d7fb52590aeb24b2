import SqlSelect.Proofs.Text.Joining
import Mathlib.Data.List.DropRight

/-!
Words of a text and texts made of words. Main statement: words with spaces between them are read as
the words they are.
-/

set_option autoImplicit false
set_option relaxedAutoImplicit false

namespace SqlSelect.Text

def IsWord (text : Text) : Prop := text ≠ [] ∧ ∀ c ∈ text, isBlank c = false

instance (text : Text) : Decidable text.IsWord :=
  decidable_of_iff (text ≠ [] ∧ text.all (!isBlank ·) = true) (by simp [IsWord])

theorem IsWord.append {left right : Text} (hleft : left.IsWord) (hright : right.IsWord) :
    Text.IsWord (left ++ right) :=
  ⟨by simp [hleft.1], fun c hc => (List.mem_append.1 hc).elim (hleft.2 c) (hright.2 c)⟩

theorem isWord_concat {text : Text} {c : Char} (htext : ∀ d ∈ text, isBlank d = false)
    (hc : isBlank c = false) : Text.IsWord (text ++ [c]) := by
  refine ⟨by simp, fun d hd => ?_⟩
  rcases List.mem_append.1 hd with hd | hd
  · exact htext d hd
  · rwa [List.mem_singleton.1 hd]

theorem words_of_isWord {word : Text} (h : word.IsWord) : words word = [word] := by
  rw [words, List.splitOnP_eq_singleton fun c hc => by simpa using h.2 c hc]
  simp [h.1]

private theorem words_trimStart (text : Text) : words (trimStart text) = words text := by
  induction text with
  | nil => rfl
  | cons c text ih =>
    by_cases hc : isBlank c = true
    · have hcut := words_append_blank hc [] text
      rw [List.nil_append, words_nil, List.nil_append] at hcut
      rw [trimStart, List.dropWhile_cons_of_pos hc, hcut]
      exact ih
    · rw [trimStart, List.dropWhile_cons_of_neg hc]

private theorem words_trimEnd (text : Text) : words (trimEnd text) = words text := by
  induction text using List.reverseRecOn with
  | nil => rfl
  | append_singleton text c ih =>
    rw [trimEnd, List.reverse_concat]
    by_cases hc : isBlank c = true
    · rw [List.dropWhile_cons_of_pos hc, words_append_blank hc, words_nil, List.append_nil]
      exact ih
    · rw [List.dropWhile_cons_of_neg hc, ← List.reverse_concat, List.reverse_reverse]

theorem words_trim (text : Text) : words (trim text) = words text := by
  rw [trim, words_trimEnd, words_trimStart]

theorem words_of_forall_isBlank {text : Text} (h : ∀ c ∈ text, isBlank c = true) :
    words text = [] := by
  have hnone : trimStart text = [] := List.dropWhile_eq_nil_iff.2 h
  rw [← words_trimStart, hnone, words_nil]

theorem words_append_space (left right : Text) :
    words (left ++ ' ' :: right) = words left ++ words right :=
  words_append_blank (by decide) left right

theorem flatten_words (text : Text) : (words text).flatten = text.filter (!isBlank ·) := by
  have hpieces (pieces : List Text) : (pieces.filter (!·.isEmpty)).flatten = pieces.flatten := by
    induction pieces with
    | nil => rfl
    | cons piece pieces ih => cases piece <;> simp [ih]
  rw [words, hpieces]
  induction text with
  | nil => simp
  | cons c text ih =>
    rw [List.splitOnP_cons_eq_if_modifyHead]
    obtain ⟨first, rest, hsplit⟩ := List.exists_cons_of_ne_nil (List.splitOnP_ne_nil isBlank text)
    rw [hsplit] at ih ⊢
    split
    · next hc => simpa [hc] using ih
    · next hc => simpa [hc] using ih

private theorem mem_filter_of_mem_words {word text : Text} (h : word ∈ words text) {c : Char}
    (hc : c ∈ word) : c ∈ text.filter (!isBlank ·) := by
  rw [← flatten_words]
  exact List.mem_flatten.2 ⟨word, h, hc⟩

theorem mem_of_mem_words {word text : Text} (h : word ∈ words text) {c : Char} (hc : c ∈ word) :
    c ∈ text := (List.mem_filter.1 (mem_filter_of_mem_words h hc)).1

theorem isWord_of_mem_words {word text : Text} (h : word ∈ words text) : word.IsWord :=
  ⟨ne_nil_of_mem_words h, fun c hc => by
    simpa using (List.mem_filter.1 (mem_filter_of_mem_words h hc)).2⟩

theorem unwords_cons (word : Text) {rest : List Text} (h : rest ≠ []) :
    unwords (word :: rest) = word ++ ' ' :: unwords rest := by
  rw [unwords, joinWith_cons_of_ne_nil _ _ h, List.append_assoc]
  rfl

theorem unwords_eq_flatMap (first : Text) (rest : List Text) :
    unwords (first :: rest) = first ++ rest.flatMap (' ' :: ·) := joinWith_eq_flatMap [' '] first rest

theorem unwords_append {left right : List Text} (hleft : left ≠ []) (hright : right ≠ []) :
    unwords (left ++ right) = unwords left ++ ' ' :: unwords right := by
  induction left with
  | nil => exact absurd rfl hleft
  | cons word rest ih =>
    by_cases hrest : rest = []
    · rw [hrest, List.singleton_append, unwords_cons word hright]
      simp [unwords]
    · rw [List.cons_append, unwords_cons word (by simp [hrest]), ih hrest, unwords_cons word hrest,
        List.append_assoc, List.cons_append]

theorem words_unwords {pieces : List Text} (h : ∀ word ∈ pieces, word.IsWord) :
    words (unwords pieces) = pieces := by
  induction pieces with
  | nil => exact words_nil
  | cons word rest ih =>
    have hword := words_of_isWord (h word List.mem_cons_self)
    by_cases hrest : rest = []
    · simpa [hrest, unwords] using hword
    · rw [unwords_cons word hrest, words_append_space, hword,
        ih fun other hmem => h other (List.mem_cons_of_mem _ hmem), List.singleton_append]

theorem words_unwords_flatten (texts : List Text) :
    words (unwords texts) = (texts.map words).flatten := by
  induction texts with
  | nil => exact words_nil
  | cons text rest ih =>
    by_cases hrest : rest = []
    · simp [hrest, unwords]
    · rw [unwords_cons text hrest, words_append_space, ih, List.map_cons, List.flatten_cons]

private theorem exists_front (text : Text) : ∃ front : Text, (∀ c ∈ front, isBlank c = false) ∧
    (text = front ∨ ∃ b back, isBlank b = true ∧ text = front ++ b :: back) := by
  induction text with
  | nil => exact ⟨[], by simp, .inl rfl⟩
  | cons c text ih =>
    by_cases hc : isBlank c = true
    · exact ⟨[], by simp, .inr ⟨c, text, hc, rfl⟩⟩
    · rw [Bool.not_eq_true] at hc
      obtain ⟨front, hfront, htext | ⟨b, back, hb, htext⟩⟩ := ih
      · exact ⟨c :: front, by simpa [hc] using hfront, .inl (by rw [htext])⟩
      · exact ⟨c :: front, by simpa [hc] using hfront, .inr ⟨b, back, hb, by simp [htext]⟩⟩

private theorem exists_back (text : Text) : ∃ back : Text, (∀ c ∈ back, isBlank c = false) ∧
    (text = back ∨ ∃ b front, isBlank b = true ∧ text = front ++ b :: back) := by
  induction text with
  | nil => exact ⟨[], by simp, .inl rfl⟩
  | cons c text ih =>
    obtain ⟨back, hback, htext | ⟨b, front, hb, htext⟩⟩ := ih
    · by_cases hc : isBlank c = true
      · exact ⟨back, hback, .inr ⟨c, [], hc, by simp [htext]⟩⟩
      · rw [Bool.not_eq_true] at hc
        exact ⟨c :: back, by simpa [hc, htext] using hback, .inl (by rw [htext])⟩
    · exact ⟨back, hback, .inr ⟨b, c :: front, hb, by simp [htext]⟩⟩

private theorem words_eq_toList {front : Text} (h : ∀ c ∈ front, isBlank c = false) :
    words front = if front = [] then [] else [front] := by
  split
  · next hnil => rw [hnil, words_nil]
  · next hne => exact words_of_isWord ⟨hne, h⟩

theorem words_append_eq {word : Text} (h : word.IsWord) (text : Text) :
    ∃ front rest, words (word ++ text) = (word ++ front) :: rest ∧
      words text = (if front = [] then [] else [front]) ++ rest := by
  have hwhole {front : Text} (hfront : ∀ c ∈ front, isBlank c = false) :
      Text.IsWord (word ++ front) :=
    ⟨by simp [h.1], fun c hc => (List.mem_append.1 hc).elim (h.2 c) (hfront c)⟩
  obtain ⟨front, hfront, rfl | ⟨b, back, hb, rfl⟩⟩ := exists_front text
  · exact ⟨text, [], words_of_isWord (hwhole hfront), by rw [words_eq_toList hfront, List.append_nil]⟩
  · refine ⟨front, words back, ?_, by rw [words_append_blank hb, words_eq_toList hfront]⟩
    rw [← List.append_assoc, words_append_blank hb, words_of_isWord (hwhole hfront),
      List.singleton_append]

theorem words_append_word_eq {word : Text} (h : word.IsWord) (text : Text) :
    ∃ front back, words (text ++ word) = front ++ [back ++ word] ∧
      words text = front ++ if back = [] then [] else [back] := by
  have hwhole {back : Text} (hback : ∀ c ∈ back, isBlank c = false) :
      Text.IsWord (back ++ word) :=
    ⟨by simp [h.1], fun c hc => (List.mem_append.1 hc).elim (hback c) (h.2 c)⟩
  obtain ⟨back, hback, rfl | ⟨b, front, hb, rfl⟩⟩ := exists_back text
  · exact ⟨[], text, words_of_isWord (hwhole hback), by rw [words_eq_toList hback, List.nil_append]⟩
  · refine ⟨words front, back, ?_, by rw [words_append_blank hb, words_eq_toList hback]⟩
    rw [List.append_assoc, List.cons_append, words_append_blank hb,
      words_of_isWord (hwhole hback)]

private theorem unwords_words_cons {c : Char} (hc : isBlank c = false) (text : Text) :
    ∃ body, unwords (words (c :: text)) = c :: body ∧ words body = words text := by
  have hword : Text.IsWord [c] := ⟨by simp, by simpa using hc⟩
  obtain ⟨front, rest, hwhole, htext⟩ := words_append_eq hword text
  rw [List.singleton_append, List.singleton_append] at hwhole
  have hpieces (piece : Text) (hmem : piece ∈ (c :: front) :: rest) : piece.IsWord :=
    isWord_of_mem_words (hwhole ▸ hmem)
  have hfront : words front = if front = [] then [] else [front] :=
    words_eq_toList fun d hd => (hpieces _ List.mem_cons_self).2 d (List.mem_cons_of_mem _ hd)
  rw [hwhole]
  by_cases hrest : rest = []
  · refine ⟨front, by simp [hrest, unwords], ?_⟩
    rw [hfront, htext, hrest, List.append_nil]
  · refine ⟨front ++ ' ' :: unwords rest, by rw [unwords_cons _ hrest, List.cons_append], ?_⟩
    rw [words_append_space, hfront, htext,
      words_unwords fun piece hmem => hpieces piece (List.mem_cons_of_mem _ hmem)]

private theorem exists_unwords_words_concat {c : Char} (hc : isBlank c = false) (text : Text) :
    ∃ body, unwords (words (text ++ [c])) = body ++ [c] := by
  have hword : Text.IsWord [c] := ⟨by simp, by simpa using hc⟩
  obtain ⟨front, back, hwhole, -⟩ := words_append_word_eq hword text
  rw [hwhole]
  by_cases hfront : front = []
  · exact ⟨back, by simp [hfront, unwords]⟩
  · exact ⟨unwords front ++ ' ' :: back, by
      rw [unwords_append hfront (by simp), List.append_assoc, List.cons_append]
      simp [unwords]⟩

private theorem words_eq_of_words_concat {c : Char} (hc : isBlank c = false) {left right : Text}
    (h : words (left ++ [c]) = words (right ++ [c])) : words left = words right := by
  have hword : Text.IsWord [c] := ⟨by simp, by simpa using hc⟩
  obtain ⟨front, back, hleft, hleft'⟩ := words_append_word_eq hword left
  obtain ⟨front', back', hright, hright'⟩ := words_append_word_eq hword right
  rw [hleft, hright] at h
  obtain ⟨rfl, hlast⟩ := List.append_inj' h rfl
  obtain rfl := List.append_cancel_right (List.singleton_inj.1 hlast)
  rw [hleft', hright']

theorem unwords_words_parentheses (text : Text) : ∃ inner : Text,
    unwords (words ('(' :: text ++ [')'])) = '(' :: inner ++ [')'] ∧ words inner = words text := by
  have hclosing : isBlank ')' = false := by decide
  obtain ⟨body, hbody, hwords⟩ := unwords_words_cons (show isBlank '(' = false by decide)
    (text ++ [')'])
  obtain ⟨front, hfront⟩ := exists_unwords_words_concat hclosing ('(' :: text)
  rw [← List.cons_append] at hbody
  have hends : '(' :: body = front ++ [')'] := hbody.symm.trans hfront
  cases front with
  | nil => simp at hends
  | cons c inner =>
    obtain ⟨rfl, rfl⟩ := List.cons.inj hends
    exact ⟨inner, hbody, words_eq_of_words_concat hclosing hwords⟩

end SqlSelect.Text
