import SqlSelect.Proofs.Query.FieldText
import SqlSelect.Query.Render

/-!
What a statement selects, with its row limit in front. Main statement: the limit is taken off and
the fields behind it are read back.
-/

set_option autoImplicit false
set_option relaxedAutoImplicit false

namespace SqlSelect

theorem dropLeading_of_notMem {mark : Char} {text : Text} (h : mark ∉ text) :
    Text.dropLeading mark text = text := by
  rw [Text.dropLeading]
  cases text with
  | nil => rfl
  | cons c rest =>
    have hc : (c == mark) = false := by
      rw [beq_eq_false_iff_ne]
      rintro rfl
      exact h List.mem_cons_self
    rw [List.dropWhile_cons_of_neg (by simp [hc])]

private theorem dropTrailing_of_notMem {mark : Char} {text : Text} (h : mark ∉ text) :
    Text.dropTrailing mark text = text := by
  have hreverse : mark ∉ text.reverse := by simpa using h
  have hdrop := dropLeading_of_notMem hreverse
  rw [Text.dropLeading] at hdrop
  rw [Text.dropTrailing, hdrop, List.reverse_reverse]

private theorem readTop?_ofNat {rows : UInt32} (h : rows ≠ 0) :
    readTop? (Text.ofNat rows.toNat) = some rows := by
  have hdigit {c : Char} (hc : c.isDigit = false) : c ∉ Text.ofNat rows.toNat := by
    intro hmem
    rw [Text.isDigit_of_mem_ofNat hmem] at hc
    exact Bool.noConfusion hc
  have hbare : Text.dropTrailing ')' (Text.dropLeading '(' (Text.ofNat rows.toNat)) =
      Text.ofNat rows.toNat := by
    rw [dropLeading_of_notMem (hdigit (by decide)), dropTrailing_of_notMem (hdigit (by decide))]
  have hnat : Text.readNatBelow? UInt32.size (Text.ofNat rows.toNat) = some rows.toNat := by
    have hbound : rows.toNat < UInt32.size := rows.toNat_lt_size
    unfold Text.readNatBelow?
    split
    · next rest hplus =>
      have hmem : '+' ∈ Text.ofNat rows.toNat := by simp [hplus]
      exact absurd hmem (hdigit (by decide))
    · have hfilter : (some rows.toNat).filter (· < UInt32.size) = some rows.toNat := by
        rw [Option.filter_some, if_pos (by simpa using hbound)]
      show (Text.readDigits? (Text.ofNat rows.toNat)).filter _ = _
      rw [Text.readDigits?_ofNat]
      exact hfilter
  have hpositive : 0 < rows.toNat :=
    Nat.pos_of_ne_zero fun hzero => h (UInt32.toNat_inj.1 hzero)
  rw [readTop?, hbare, hnat]
  simp [hpositive]

/-- Whether a text can stand behind `SELECT` without being taken for a row limit. -/
def IsUnlimited (text : Text) : Prop :=
  ∀ first ∈ (Text.words text).head?, Text.sameLetters "top".toList first = false

theorem isUnlimited_joinWith {first : Text} (hentry : first.IsEntry) (h : IsUnlimited first)
    (rest : List Text) : IsUnlimited (Text.joinWith ", ".toList (first :: rest)) := by
  by_cases hrest : rest = []
  · rwa [hrest, Text.joinWith_singleton]
  · obtain ⟨-, front, last, hwords, hjoined⟩ := hentry.clean.tidy.append_comma
    have hspelled : Text.joinWith ", ".toList (first :: rest) =
        (first ++ [',']) ++ ' ' :: Text.joinWith ", ".toList rest := by
      rw [Text.joinWith_cons_of_ne_nil _ _ hrest]
      simp
    rw [IsUnlimited, hwords] at h
    rw [IsUnlimited, hspelled, Text.words_append_space, hjoined]
    intro word hword
    cases front with
    | nil =>
      obtain rfl := Option.some.inj hword
      have hcomma : ',' ∈ last ++ [','] := by simp
      exact Text.not_sameLetters_of_mem hcomma (by decide)
    | cons head front =>
      obtain rfl := Option.some.inj hword
      exact h head rfl

private theorem isNameChar_of_mem_ofNat {n : Nat} {c : Char} (h : c ∈ Text.ofNat n) :
    isNameChar c = true := by
  rw [isNameChar, Char.isAlphanum, Text.isDigit_of_mem_ofNat h]
  simp

private theorem isWord_ofNat (n : Nat) : (Text.ofNat n).IsWord :=
  ⟨Text.ofNat_ne_nil n, fun _ hc => isBlank_of_isNameChar (isNameChar_of_mem_ofNat hc)⟩

private theorem isEntry_ofNat (n : Nat) : (Text.ofNat n).IsEntry := by
  obtain ⟨c, rest, hspelled⟩ := List.exists_cons_of_ne_nil (Text.ofNat_ne_nil n)
  have hmem : c ∈ Text.ofNat n := by simp [hspelled]
  have hfree : ∀ keyword ∈ clauseWords, c.toLower ∉ Text.foldCase keyword := by
    have hletters : clauseWords.all (fun keyword =>
        (Text.foldCase keyword).all (!·.isDigit)) = true := by decide
    intro keyword hkeyword hin
    have hdigit : (c.toLower).isDigit = false := by
      have hkeywordLetters := List.all_eq_true.1 hletters keyword hkeyword
      simpa using List.all_eq_true.1 hkeywordLetters _ hin
    rw [Text.toLower_of_isDigit (Text.isDigit_of_mem_ofNat hmem), Text.isDigit_of_mem_ofNat hmem] at hdigit
    exact Bool.noConfusion hdigit
  exact Text.isEntry_of_word (isWord_ofNat n) (isClauseWord_of_mem hmem hfree) fun d hd =>
    notMem_marks_of_isNameChar (isNameChar_of_mem_ofNat hd)

private theorem topText_append (rows : UInt32) (text : Text) : topText (some rows) ++ text =
    "TOP".toList ++ ' ' :: (Text.ofNat rows.toNat ++ ' ' :: text) := by
  simp [topText, Phrase.top]

theorem isClean_topText {text : Text} (h : text.IsClean) (top : Option UInt32) :
    Text.IsClean (topText top ++ text) := by
  cases top with
  | none => exact h
  | some rows =>
    have htop : Text.IsEntry "TOP".toList := Text.isEntry_of_word (by decide) (by decide) (by decide)
    rw [topText_append]
    exact htop.clean.append_space ((isEntry_ofNat _).clean.append_space h)

theorem takeTop_words {top : Option UInt32} (htop : top ≠ some 0) {text : Text}
    (hspaced : text.IsSpaced) (h : IsUnlimited text) :
    takeTop (Text.words (topText top ++ text)) = .ok (top, Text.words text) := by
  cases top with
  | none =>
    obtain ⟨first, rest, hwords⟩ := List.exists_cons_of_ne_nil hspaced.words_ne_nil
    have hfirst := h first (by rw [hwords]; rfl)
    have hnone : topText none ++ text = text := rfl
    rw [hnone, hwords, takeTop, hfirst]
    rfl
  | some rows =>
    have hrows : rows ≠ 0 := fun hzero => htop (congrArg some hzero)
    have htopWord : Text.words "TOP".toList = ["TOP".toList] := by decide
    have hdigits := Text.words_of_isWord (isWord_ofNat rows.toNat)
    have hsame : Text.sameLetters "top".toList "TOP".toList = true := by decide
    rw [topText_append, Text.words_append_space, Text.words_append_space, htopWord, hdigits,
      List.singleton_append, List.singleton_append, takeTop, hsame]
    simp only [if_true, List.head?_cons, Option.getD_some, readTop?_ofNat hrows, List.tail_cons]

end SqlSelect
