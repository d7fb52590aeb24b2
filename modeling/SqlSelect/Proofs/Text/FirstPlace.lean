import SqlSelect.Proofs.Text.Cutting

/-!
The place where a text is cut. Main statement: a cut is made exactly at the first place where the
pattern stands in any case, and none is made exactly if there is no such place.
-/

set_option autoImplicit false
set_option relaxedAutoImplicit false

namespace SqlSelect.Text

def Mentions (pattern text : Text) : Prop := foldCase pattern <:+: foldCase text

instance (pattern text : Text) : Decidable (Mentions pattern text) :=
  inferInstanceAs (Decidable (foldCase pattern <:+: foldCase text))

/-- A text around the first place where a pattern stands, in any case. -/
structure IsFirstCut (pattern text before after : Text) : Prop where
  found : ∃ middle, text = before ++ middle ++ after ∧ sameLetters pattern middle = true
  first : ∀ front middle back, text = front ++ middle ++ back →
    sameLetters pattern middle = true → before.length ≤ front.length

private theorem infix_of_isSome_cut? {pattern text : Text} (h : (cut? pattern text).isSome = true) :
    foldCase pattern <:+: foldCase text := by
  induction text with
  | nil =>
    rw [cut?] at h
    split at h
    · next hempty => simp [List.isEmpty_iff.1 hempty, foldCase]
    · simp at h
  | cons c text ih =>
    by_cases hstart : startsWith pattern (c :: text) = true
    · exact ((startsWith_iff _ _).1 hstart).isInfix
    · rw [cut?_of_not_startsWith hstart, Option.isSome_map] at h
      exact (ih h).trans (List.suffix_cons _ _).isInfix

theorem cut?_eq_none_of_words {front word back text : Text} (hword : word.IsWord)
    (h : ∀ other ∈ words text, sameLetters word other = false) :
    cut? (front ++ ' ' :: word ++ ' ' :: back) text = none := by
  rw [← Option.not_isSome_iff_eq_none]
  intro hfound
  obtain ⟨before, after, hspelled⟩ := infix_of_isSome_cut? hfound
  have hmem : foldCase word ∈ words (foldCase text) := by
    have hfold : foldCase (front ++ ' ' :: word ++ ' ' :: back) =
        foldCase front ++ ' ' :: foldCase word ++ ' ' :: foldCase back := by
      have hspace : ' '.toLower = ' ' := by decide
      simp [foldCase, hspace]
    have hsplit : before ++ (foldCase front ++ ' ' :: foldCase word ++ ' ' :: foldCase back) ++
        after = (before ++ foldCase front) ++ ' ' :: (foldCase word ++ ' ' ::
          (foldCase back ++ after)) := by simp
    rw [← hspelled, hfold, hsplit, words_append_space, words_append_space, words_foldCase,
      words_of_isWord hword]
    simp
  rw [words_foldCase, List.mem_map] at hmem
  obtain ⟨other, hother, hsame⟩ := hmem
  have hdiffers := h other hother
  rw [sameLetters, beq_eq_false_iff_ne] at hdiffers
  exact hdiffers hsame.symm

theorem isSome_cut?_iff {pattern text : Text} :
    (cut? pattern text).isSome = true ↔ foldCase pattern <:+: foldCase text := by
  constructor
  · exact infix_of_isSome_cut?
  · intro h
    induction text with
    | nil =>
      have hpattern : pattern = [] := by simpa [foldCase] using h
      rw [hpattern]
      rfl
    | cons c text ih =>
      rw [cut?]
      split
      · rfl
      · next hstart =>
        rw [startsWith_iff] at hstart
        rw [Option.isSome_map]
        exact ih ((List.infix_cons_iff.1 h).resolve_left hstart)

section FirstCut

variable {pattern text before after : Text}

theorem startsWith_of_eq_append {middle back : Text} (hsame : sameLetters pattern middle = true)
    (htext : text = middle ++ back) : startsWith pattern text = true := by
  rw [startsWith, htext, length_eq_of_sameLetters hsame, List.take_left]
  exact hsame

theorem IsFirstCut.mentions (h : IsFirstCut pattern text before after) : Mentions pattern text := by
  obtain ⟨middle, htext, hsame⟩ := h.found
  have hfold : foldCase pattern = foldCase middle := beq_iff_eq.1 hsame
  rw [Mentions, hfold, htext, foldCase, foldCase, List.map_append, List.map_append]
  exact ⟨_, _, rfl⟩

private theorem IsFirstCut.unique {before' after' : Text} (h : IsFirstCut pattern text before after)
    (h' : IsFirstCut pattern text before' after') : before = before' ∧ after = after' := by
  obtain ⟨middle, htext, hsame⟩ := h.found
  obtain ⟨middle', htext', hsame'⟩ := h'.found
  have hfront : before.length = before'.length :=
    Nat.le_antisymm (h.first _ _ _ htext' hsame') (h'.first _ _ _ htext hsame)
  have hmiddle : middle.length = middle'.length :=
    (length_eq_of_sameLetters hsame).symm.trans (length_eq_of_sameLetters hsame')
  have hwhole := htext.symm.trans htext'
  rw [List.append_assoc, List.append_assoc] at hwhole
  obtain ⟨rfl, hrest⟩ := List.append_inj hwhole hfront
  exact ⟨rfl, (List.append_inj hrest hmiddle).2⟩

/-- A cut is made at a place where the pattern stands, and the scan passes over no such place. -/
theorem isFirstCut_of_cut? (h : cut? pattern text = some (before, after)) :
    IsFirstCut pattern text before after := by
  induction text generalizing before with
  | nil =>
    rw [cut?] at h
    split at h
    · next hempty =>
      obtain ⟨rfl, rfl⟩ := Prod.mk.inj (Option.some.inj h)
      rw [List.isEmpty_iff.1 hempty]
      exact ⟨⟨[], rfl, sameLetters_refl []⟩, fun _ _ _ _ _ => Nat.zero_le _⟩
    · cases h
  | cons c rest ih =>
    by_cases hstart : startsWith pattern (c :: rest) = true
    · rw [cut?_of_startsWith hstart] at h
      obtain ⟨rfl, rfl⟩ := Prod.mk.inj (Option.some.inj h)
      refine ⟨⟨(c :: rest).take pattern.length, ?_, hstart⟩, fun _ _ _ _ _ => Nat.zero_le _⟩
      rw [List.nil_append, List.take_append_drop]
    · rw [cut?_of_not_startsWith hstart] at h
      obtain ⟨⟨front, back⟩, hcut, hpair⟩ := Option.map_eq_some_iff.1 h
      obtain ⟨rfl, rfl⟩ := Prod.mk.inj hpair
      obtain ⟨⟨middle, htext, hsame⟩, hfirst⟩ := ih hcut
      refine ⟨⟨middle, by rw [htext]; rfl, hsame⟩, fun left other right hsplit hother => ?_⟩
      cases left with
      | nil => exact absurd (startsWith_of_eq_append hother hsplit) hstart
      | cons d left =>
        obtain ⟨rfl, hinner⟩ := List.cons.inj hsplit
        exact Nat.succ_le_succ (hfirst left other right hinner hother)

theorem cut?_eq_none_iff : cut? pattern text = none ↔ ¬Mentions pattern text := by
  rw [Mentions, ← isSome_cut?_iff, Option.not_isSome_iff_eq_none]

theorem cut?_eq_some_iff :
    cut? pattern text = some (before, after) ↔ IsFirstCut pattern text before after := by
  constructor
  · exact isFirstCut_of_cut?
  · intro h
    cases hcut : cut? pattern text with
    | none => exact absurd h.mentions (cut?_eq_none_iff.1 hcut)
    | some parts =>
      obtain ⟨rfl, rfl⟩ := h.unique (isFirstCut_of_cut? hcut)
      rfl

theorem exists_isFirstCut (h : Mentions pattern text) :
    ∃ before after, IsFirstCut pattern text before after := by
  cases hcut : cut? pattern text with
  | none => exact absurd h (cut?_eq_none_iff.1 hcut)
  | some parts => exact ⟨parts.1, parts.2, isFirstCut_of_cut? hcut⟩

end FirstCut

end SqlSelect.Text
