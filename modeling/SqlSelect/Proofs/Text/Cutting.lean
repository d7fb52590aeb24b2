import SqlSelect.Text.Search
import SqlSelect.Proofs.Text.Letters
import SqlSelect.Proofs.Text.Tidy
import Mathlib.Data.List.Infix

/-!
Where a text is cut. Main statement: a word is found at the first place where it stands as a whole.
-/

set_option autoImplicit false
set_option relaxedAutoImplicit false

namespace SqlSelect.Text

theorem cutAt?_append {mark : Char} {front : Text} (h : mark ∉ front) (back : Text) :
    cutAt? mark (front ++ mark :: back) = some (front, back) := by
  induction front with
  | nil => simp [cutAt?]
  | cons c front ih =>
    obtain ⟨hc, hfront⟩ := not_or.1 (mt List.mem_cons.2 h)
    rw [List.cons_append, cutAt?, if_neg (Ne.symm hc), ih hfront, Option.map_some]

theorem cutAt?_eq_none {mark : Char} {text : Text} (h : mark ∉ text) : cutAt? mark text = none := by
  induction text with
  | nil => rfl
  | cons c text ih =>
    obtain ⟨hc, htext⟩ := not_or.1 (mt List.mem_cons.2 h)
    rw [cutAt?, if_neg (Ne.symm hc), ih htext, Option.map_none]

private theorem cutLast?_eq_none {p : Char → Bool} {text : Text} (h : ∀ c ∈ text, p c = false) :
    cutLast? p text = none := by
  induction text with
  | nil => rfl
  | cons c text ih =>
    rw [cutLast?, ih fun d hd => h d (List.mem_cons_of_mem _ hd)]
    simp [h c]

theorem cutLast?_append {p : Char → Bool} {mark : Char} {back : Text} (hmark : p mark = true)
    (h : ∀ c ∈ back, p c = false) (front : Text) :
    cutLast? p (front ++ mark :: back) = some (front, back) := by
  induction front with
  | nil => simp [cutLast?, cutLast?_eq_none h, hmark]
  | cons c front ih => rw [List.cons_append, cutLast?, ih]

theorem inside?_eq_some_iff {opening closing : Char} {text inner : Text} :
    inside? opening closing text = some inner ↔ text = opening :: inner ++ [closing] := by
  cases text with
  | nil => simp [inside?]
  | cons c rest =>
    rw [inside?]
    constructor
    · intro h
      split at h
      · next hends =>
        obtain ⟨rfl, hlast⟩ := hends
        rw [← Option.some.inj h, List.cons_append, List.dropLast_append_getLast? _ hlast]
      · cases h
    · intro h
      rw [List.cons_append] at h
      obtain ⟨rfl, rfl⟩ := List.cons.inj h
      simp

theorem startsWith_iff (pattern text : Text) :
    startsWith pattern text = true ↔ foldCase pattern <+: foldCase text := by
  rw [startsWith, sameLetters, beq_iff_eq, List.prefix_iff_eq_take, length_foldCase, foldCase,
    foldCase, foldCase, List.map_take]

theorem startsWith_cons_eq_false {c d : Char} (h : d.toLower ≠ c.toLower) (pattern text : Text) :
    startsWith (c :: pattern) (d :: text) = false := by
  rw [Bool.eq_false_iff, Ne, startsWith_iff]
  intro hbegins
  exact h (List.cons_prefix_cons.1 hbegins).1.symm

theorem cut?_of_startsWith {pattern rest : Text} {c : Char}
    (h : startsWith pattern (c :: rest) = true) :
    cut? pattern (c :: rest) = some ([], (c :: rest).drop pattern.length) := by
  rw [cut?, if_pos h]

theorem cut?_of_not_startsWith {pattern rest : Text} {c : Char}
    (h : ¬startsWith pattern (c :: rest) = true) :
    cut? pattern (c :: rest) =
      (cut? pattern rest).map fun (before, after) => (c :: before, after) := by
  rw [cut?, if_neg h]

theorem cut?_eq_none {pattern text : Text} {c : Char} (hmem : c ∈ pattern)
    (h : ∀ d ∈ text, d.toLower ≠ c.toLower) : cut? pattern text = none := by
  have hpattern : c.toLower ∈ foldCase pattern := List.mem_map_of_mem hmem
  induction text with
  | nil =>
    have hne : pattern ≠ [] := List.ne_nil_of_mem hmem
    rw [cut?, if_neg (by simpa using hne)]
  | cons d text ih =>
    have hstart : ¬startsWith pattern (d :: text) = true := by
      rw [startsWith_iff]
      intro hbegins
      obtain ⟨e, he, heq⟩ := List.mem_map.1 (hbegins.mem hpattern)
      exact h e he heq
    rw [cut?_of_not_startsWith hstart, ih fun e he => h e (List.mem_cons_of_mem _ he),
      Option.map_none]

theorem cut?_append_of_sameLetters {pattern found : Text} (hfound : found ≠ [])
    (h : sameLetters pattern found = true) (rest : Text) :
    cut? pattern (found ++ rest) = some ([], rest) := by
  have hlength := length_eq_of_sameLetters h
  obtain ⟨c, tail, rfl⟩ := List.exists_cons_of_ne_nil hfound
  have hstart : startsWith pattern (c :: (tail ++ rest)) = true := by
    rw [startsWith, hlength, ← List.cons_append, List.take_left]
    exact h
  rw [List.cons_append, cut?_of_startsWith hstart, ← List.cons_append, hlength, List.drop_left]

theorem cut?_append {pattern : Text} (h : pattern ≠ []) (rest : Text) :
    cut? pattern (pattern ++ rest) = some ([], rest) :=
  cut?_append_of_sameLetters h (sameLetters_refl pattern) rest

theorem isSome_cut?_append (pattern front back : Text) :
    (cut? pattern (front ++ pattern ++ back)).isSome = true := by
  induction front with
  | nil =>
    cases pattern with
    | nil => cases back <;> simp [cut?, startsWith, sameLetters]
    | cons c pattern =>
      rw [List.nil_append, cut?_append (List.cons_ne_nil c pattern)]
      rfl
  | cons c front ih =>
    rw [List.cons_append, List.cons_append, cut?]
    split
    · rfl
    · rwa [Option.isSome_map]

private theorem space_notMem_foldCase {word : Text} (h : word.IsWord) : ' ' ∉ foldCase word := by
  rw [foldCase, List.mem_map]
  rintro ⟨c, hc, hlower⟩
  obtain rfl : c = ' ' := eq_of_toLower_eq (by decide) hlower
  exact absurd (h.2 ' ' hc) (by decide)

private theorem eq_of_append_cons_eq {mark : Char} {left right left' right' : Text}
    (h : mark ∉ left) (h' : mark ∉ left') (heq : left ++ mark :: right = left' ++ mark :: right') :
    left = left' := by
  have hcut := congrArg (cutAt? mark) heq
  rw [cutAt?_append h, cutAt?_append h'] at hcut
  exact (Prod.mk.inj (Option.some.inj hcut)).1

private theorem startsWith_word_iff {word first : Text} (hword : word.IsWord)
    (hfirst : first.IsWord) (rest : Text) :
    startsWith (' ' :: word ++ [' ']) (' ' :: first ++ ' ' :: rest) = true ↔
      sameLetters word first = true := by
  have hspace : ' '.toLower = ' ' := by decide
  rw [startsWith_iff, sameLetters, beq_iff_eq]
  simp only [foldCase, List.cons_append, List.map_cons, List.map_append, hspace, List.map_nil]
  rw [List.cons_prefix_cons]
  constructor
  · rintro ⟨-, back, hback⟩
    rw [List.append_assoc, List.singleton_append] at hback
    exact eq_of_append_cons_eq (space_notMem_foldCase hword) (space_notMem_foldCase hfirst) hback
  · intro hsame
    rw [hsame]
    exact ⟨rfl, rest.map Char.toLower, by simp⟩

theorem cut?_append_of_tails {pattern front : Text}
    (h : ∀ back ∈ front.tails, back ≠ [] →
      ¬foldCase (back.take pattern.length) <+: foldCase pattern) (rest : Text) :
    cut? pattern (front ++ rest) =
      (cut? pattern rest).map fun (before, after) => (front ++ before, after) := by
  induction front with
  | nil =>
    rw [List.nil_append]
    cases cut? pattern rest <;> rfl
  | cons c front ih =>
    obtain ⟨hhere, hlater⟩ := List.forall_mem_cons.1 h
    have hstart : ¬startsWith pattern (c :: (front ++ rest)) = true := by
      rw [startsWith_iff, ← List.cons_append]
      intro hbegins
      refine hhere (List.cons_ne_nil c front) (List.prefix_of_prefix_length_le ?_ hbegins ?_)
      · exact ((List.take_prefix _ _).trans (List.prefix_append _ rest)).map Char.toLower
      · rw [length_foldCase, length_foldCase]
        exact List.length_take_le _ _
    rw [List.cons_append, cut?_of_not_startsWith hstart, ih hlater, Option.map_map]
    rfl

theorem cut?_append_of_not_isBlank {pattern front : Text} (h : ∀ c ∈ front, isBlank c = false)
    (rest : Text) : cut? (' ' :: pattern) (front ++ rest) =
      (cut? (' ' :: pattern) rest).map fun (before, after) => (front ++ before, after) := by
  refine cut?_append_of_tails (fun back hback hne hbegins => ?_) rest
  obtain ⟨c, tail, rfl⟩ := List.exists_cons_of_ne_nil hne
  obtain rfl : c = ' ' := eq_of_toLower_eq (by decide) (List.cons_prefix_cons.1 hbegins).1
  exact absurd (h ' ' (((List.mem_tails _ _).1 hback).subset List.mem_cons_self)) (by decide)

private theorem cutWord?_unwords {word found : Text} (hword : word.IsWord) (hfound : found.IsWord)
    (hsame : sameLetters word found = true) {first : Text} {middle rest : List Text}
    (hfirst : first.IsWord)
    (hmiddle : ∀ other ∈ middle, other.IsWord ∧ sameLetters word other = false)
    (hrest : rest ≠ []) :
    cutWord? word (unwords (first :: middle ++ found :: rest)) =
      some (unwords (first :: middle), unwords rest) := by
  induction middle generalizing first with
  | nil =>
    have hstart := (startsWith_word_iff hword hfound (unwords rest)).2 hsame
    have hlength : (' ' :: word ++ [' ']).length = (' ' :: found ++ [' ']).length := by
      simp [length_eq_of_sameLetters hsame]
    have hdrop : (' ' :: found ++ ' ' :: unwords rest).drop (' ' :: word ++ [' ']).length =
        unwords rest := by
      have hsplit : ' ' :: found ++ ' ' :: unwords rest =
          (' ' :: found ++ [' ']) ++ unwords rest := by simp
      rw [hsplit, hlength, List.drop_left]
    have hcut : cut? (' ' :: word ++ [' ']) (' ' :: found ++ ' ' :: unwords rest) =
        some ([], unwords rest) :=
      (cut?_of_startsWith hstart).trans (congrArg (fun after => some ([], after)) hdrop)
    rw [List.singleton_append, unwords_cons first (by simp), unwords_cons found hrest, cutWord?,
      List.cons_append, cut?_append_of_not_isBlank hfirst.2, ← List.cons_append,
      ← List.cons_append, hcut]
    simp [unwords]
  | cons other middle ih =>
    obtain ⟨hother, hdiffers⟩ := hmiddle other List.mem_cons_self
    have hnext := ih hother fun piece hpiece => hmiddle piece (List.mem_cons_of_mem _ hpiece)
    obtain ⟨tail, htail⟩ : ∃ tail, unwords (other :: middle ++ found :: rest) =
        other ++ ' ' :: tail := ⟨_, by rw [List.cons_append, unwords_cons other (by simp)]⟩
    have hstart : ¬startsWith (' ' :: word ++ [' ']) (' ' :: other ++ ' ' :: tail) = true := by
      rw [startsWith_word_iff hword hother, hdiffers]
      simp
    have hcut : cut? (' ' :: word ++ [' ']) (' ' :: unwords (other :: middle ++ found :: rest)) =
        some (' ' :: unwords (other :: middle), unwords rest) := by
      have hskip := cut?_of_not_startsWith hstart
      rw [cutWord?, htail] at hnext
      rw [htail]
      exact hskip.trans (congrArg (Option.map _) hnext)
    rw [List.cons_append, unwords_cons first (by simp), cutWord?, List.cons_append,
      cut?_append_of_not_isBlank hfirst.2, ← List.cons_append, hcut, unwords_cons first (by simp)]
    rfl

theorem IsSpaced.cutWord?_append {word found front back : Text} (hfront : front.IsSpaced)
    (hback : back.IsSpaced) (hword : word.IsWord) (hfound : found.IsWord)
    (hsame : sameLetters word found = true)
    (hmiddle : ∀ other ∈ (words front).tail, sameLetters word other = false) :
    cutWord? word (front ++ ' ' :: found ++ ' ' :: back) = some (front, back) := by
  obtain ⟨first, middle, hwords⟩ := List.exists_cons_of_ne_nil hfront.words_ne_nil
  have hpieces (piece : Text) (hmem : piece ∈ first :: middle) : piece.IsWord :=
    isWord_of_mem_words (hwords ▸ hmem)
  have hbetween : ∀ other ∈ middle, other.IsWord ∧ sameLetters word other = false :=
    fun other hother => ⟨hpieces other (List.mem_cons_of_mem _ hother),
      hmiddle other (by rwa [hwords])⟩
  have hcut := cutWord?_unwords hword hfound hsame (hpieces first List.mem_cons_self) hbetween
    hback.words_ne_nil
  rw [unwords_append (by simp) (by simp), unwords_cons found hback.words_ne_nil, ← hwords,
    hfront.spaced, hback.spaced] at hcut
  simpa using hcut

end SqlSelect.Text
