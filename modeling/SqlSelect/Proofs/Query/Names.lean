import SqlSelect.Query.Clause
import SqlSelect.Proofs.Text.Entries
import SqlSelect.Proofs.Text.Letters

/-!
Names and other entries of the clauses of a statement, and the words that none of them may be.
Main statement: a list of entries switches to no clause.
-/

set_option autoImplicit false
set_option relaxedAutoImplicit false

namespace SqlSelect

def clauseWords : List Text := clauseKeywords.map Prod.fst ++ ["by".toList]

/-- Whether a word switches to a clause where it stands outside parentheses. -/
def isClauseWord (word : Text) : Bool := clauseWords.any (Text.sameLetters · word)

def reservedWords : List Text :=
  clauseWords ++ ["top".toList, "as".toList, "on".toList, "asc".toList, "desc".toList]

def isNameChar (c : Char) : Bool := c.isAlphanum || c == '_'

namespace Text

structure IsPlainName (name : Text) : Prop where
  filled : name ≠ []
  chars : ∀ c ∈ name, isNameChar c = true
  unreserved : ∀ keyword ∈ reservedWords, sameLetters keyword name = false

/-- A tidy text without a word outside parentheses that switches to a clause. -/
structure IsClean (text : Text) : Prop where
  tidy : text.IsTidy
  free : freeOf isClauseWord 0 (words text) = true

instance (name : Text) : Decidable name.IsPlainName :=
  decidable_of_iff (name ≠ [] ∧ name.all isNameChar = true ∧
      ∀ keyword ∈ reservedWords, sameLetters keyword name = false)
    ⟨fun h => ⟨h.1, List.all_eq_true.1 h.2.1, h.2.2⟩,
      fun h => ⟨h.filled, List.all_eq_true.2 h.chars, h.unreserved⟩⟩

instance (text : Text) : Decidable text.IsClean :=
  decidable_of_iff (text.IsTidy ∧ freeOf isClauseWord 0 (words text) = true)
    ⟨fun h => ⟨h.1, h.2⟩, fun h => ⟨h.tidy, h.free⟩⟩

def IsUnmarked (text : Text) : Prop := ∀ c ∈ text, c ∉ ['(', ')', ',', '-']

instance (text : Text) : Decidable text.IsUnmarked :=
  decidable_of_iff (text.all (fun c => decide (c ∉ ['(', ')', ',', '-'])) = true)
    ⟨fun h c hc => of_decide_eq_true (List.all_eq_true.1 h c hc),
      fun h => List.all_eq_true.2 fun c hc => decide_eq_true (h c hc)⟩

/-- A clean text without a comma outside parentheses. -/
structure IsEntry (text : Text) : Prop where
  clean : text.IsClean
  uncut : IsUncut ',' 0 text

end Text

theorem ofWord?_eq_none {word : Text} (h : isClauseWord word = false)
    (previous : Option Clause) : Clause.ofWord? previous word = none := by
  rw [isClauseWord, clauseWords, List.any_append, Bool.or_eq_false_iff, List.any_map] at h
  obtain ⟨hkeywords, hby⟩ := h
  have hother : Text.sameLetters "by".toList word = false := by simpa using hby
  rw [Clause.ofWord?]
  split
  · next entry hfound =>
    have hsame := List.find?_some hfound
    have hdiffers := List.any_eq_false.1 hkeywords _ (List.mem_of_find?_eq_some hfound)
    exact absurd hsame hdiffers
  · simp only [hother, Bool.false_eq_true, if_false]

theorem isBlank_of_isNameChar {c : Char} (h : isNameChar c = true) : isBlank c = false := by
  rw [Bool.eq_false_iff]
  intro hblank
  have hcodes : ∀ code ∈ blankCodes, isNameChar (Char.ofNat code) = false := by decide
  have hmem : c.toNat ∈ blankCodes := by simpa [isBlank] using hblank
  have hother := hcodes c.toNat hmem
  rw [Char.ofNat_toNat, h] at hother
  exact Bool.noConfusion hother

private theorem ne_of_isNameChar {c d : Char} (hc : isNameChar c = true)
    (hd : isNameChar d = false) :
    c ≠ d := by
  rintro rfl
  rw [hc] at hd
  exact Bool.noConfusion hd

theorem notMem_marks_of_isNameChar {c : Char} (h : isNameChar c = true) :
    c ∉ ['(', ')', ',', '-'] := by
  intro hmark
  have hmarks : ['(', ')', ',', '-'].all (!isNameChar ·) = true := by decide
  have hother := List.all_eq_true.1 hmarks c hmark
  simp [h] at hother

theorem Text.notMem_of_nameChars {name : Text} (h : ∀ d ∈ name, isNameChar d = true) {c : Char}
    (hc : isNameChar c = false) : c ∉ name :=
  fun hmem => ne_of_isNameChar (h c hmem) hc rfl

theorem Text.depth_eq_zero_of_nameChars {name : Text} (h : ∀ c ∈ name, isNameChar c = true) :
    Text.depth name = 0 :=
  Text.depth_eq_zero_of_notMem (notMem_of_nameChars h (by decide)) (notMem_of_nameChars h (by decide))

theorem isClauseWord_of_mem {word : Text} {c : Char} (hmem : c ∈ word)
    (h : ∀ keyword ∈ clauseWords, c.toLower ∉ Text.foldCase keyword) :
    isClauseWord word = false := by
  rw [isClauseWord, List.any_eq_false]
  intro keyword hkeyword
  simp [Text.not_sameLetters_of_mem hmem (h keyword hkeyword)]

private theorem isClauseWord_of_closing {word : Text}
    (h : ')' ∈ word) : isClauseWord word = false :=
  isClauseWord_of_mem h (by decide)

namespace Text

private theorem freeOf_singleton {p : Text → Bool} {word : Text} (h : p word = false)
    (start : Int) :
    freeOf p start [word] = true := by
  simp [freeOf, h]

theorem IsClean.append_space {left right : Text} (hleft : left.IsClean) (hright : right.IsClean) :
    IsClean (left ++ ' ' :: right) where
  tidy := hleft.tidy.append_space hright.tidy
  free := by
    rw [words_append_space, freeOf_append, depth_flatten_words, hleft.tidy.nested.closed,
      Int.add_zero, hleft.free, hright.free]
    rfl

private theorem IsClean.append_comma {text : Text} (h : text.IsClean) :
    IsClean (text ++ [',']) := by
  obtain ⟨htidy, front, last, hwords, hjoined⟩ := h.tidy.append_comma
  refine ⟨htidy, ?_⟩
  have hfree := h.free
  rw [hwords, freeOf_append, Bool.and_eq_true] at hfree
  have hcomma : ',' ∈ last ++ [','] := by simp
  have hlast : isClauseWord (last ++ [',']) = false := isClauseWord_of_mem hcomma (by decide)
  rw [hjoined, freeOf_append, hfree.1, freeOf_singleton hlast]
  rfl

theorem IsEntry.isListed {entry : Text} (h : entry.IsEntry) : entry.IsListed := ⟨h.clean.tidy, h.uncut⟩

theorem IsEntry.append_space {left right : Text} (hleft : left.IsEntry) (hright : right.IsEntry) :
    IsEntry (left ++ ' ' :: right) where
  clean := hleft.clean.append_space hright.clean
  uncut := by
    have hdepth := hleft.clean.tidy.nested.closed
    have hspace : IsUncut ',' 0 [' '] := isUncut_of_notMem (by decide) 0
    have hback : IsUncut ',' 0 (' ' :: right) := hspace.append hright.uncut
    refine hleft.uncut.append ?_
    rwa [hdepth]

theorem isEntry_of_word {word : Text} (hword : word.IsWord) (hfree : isClauseWord word = false)
    (hmarks : word.IsUnmarked) : word.IsEntry where
  clean :=
    { tidy :=
        { spaced := hword.isSpaced
          nested := isNested_of_notMem (fun hmem => hmarks _ hmem (by decide))
            fun hmem => hmarks _ hmem (by decide)
          uncommented := isUncommented_of_notMem fun hmem => hmarks _ hmem (by decide) }
      free := by rw [words_of_isWord hword, freeOf_singleton hfree] }
  uncut := isUncut_of_notMem (fun hmem => hmarks _ hmem (by decide)) 0

theorem isEntry_parentheses {text : Text} (h : text.IsTidy) :
    IsEntry ('(' :: text ++ [')']) where
  clean :=
    { tidy := h.parentheses
      free := by
        have hname : ∀ c ∈ ([] : Text), isBlank c = false := by simp
        exact freeOf_call (fun _ => isClauseWord_of_closing) hname rfl h.nested }
  uncut := isUncut_parentheses h.nested (by decide)

theorem isClean_joinWith {entries : List Text} (hne : entries ≠ [])
    (h : ∀ entry ∈ entries, entry.IsEntry) : IsClean (joinWith ", ".toList entries) := by
  induction entries with
  | nil => exact absurd rfl hne
  | cons entry rest ih =>
    obtain ⟨hentry, hothers⟩ := List.forall_mem_cons.1 h
    by_cases hrest : rest = []
    · rw [hrest, joinWith_singleton]
      exact hentry.clean
    · have hwhole := hentry.clean.append_comma.append_space (ih hrest hothers)
      rw [joinWith_cons_of_ne_nil _ _ hrest]
      simpa using hwhole

namespace IsPlainName

variable {name : Text}

theorem isWord (h : name.IsPlainName) : name.IsWord :=
  ⟨h.filled, fun c hc => isBlank_of_isNameChar (h.chars c hc)⟩

theorem notMem (h : name.IsPlainName) {c : Char} (hc : isNameChar c = false) : c ∉ name :=
  notMem_of_nameChars h.chars hc

private theorem not_isClauseWord (h : name.IsPlainName) : isClauseWord name = false := by
  rw [isClauseWord, List.any_eq_false]
  intro keyword hkeyword
  simp [h.unreserved keyword (List.mem_append_left _ hkeyword)]

theorem isEntry (h : name.IsPlainName) : name.IsEntry :=
  isEntry_of_word h.isWord h.not_isClauseWord fun c hc => notMem_marks_of_isNameChar (h.chars c hc)

theorem isEntry_tempName (h : name.IsPlainName) : IsEntry ('#' :: name) := by
  have hmark : Text.IsWord ['#'] := by decide
  have hmem : '#' ∈ '#' :: name := List.mem_cons_self
  refine isEntry_of_word (hmark.append h.isWord) (isClauseWord_of_mem hmem (by decide)) fun c hc => ?_
  rcases List.mem_cons.1 hc with rfl | hc
  · decide
  · exact notMem_marks_of_isNameChar (h.chars c hc)

end IsPlainName

end Text

end SqlSelect
