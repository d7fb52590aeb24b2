import SqlSelect.Text.Blank
import SqlSelect.Text.Case
import Mathlib.Data.List.Basic

/-!
Characters without a case, and texts that cannot be a keyword because of one of their characters.
-/

set_option autoImplicit false
set_option relaxedAutoImplicit false

namespace SqlSelect.Text

theorem toLower_of_isUpper_eq_false {c : Char} (h : c.isUpper = false) : c.toLower = c :=
  dif_neg (of_decide_eq_false h)

private theorem toLower_of_isAlpha_eq_false {c : Char} (h : c.isAlpha = false) : c.toLower = c := by
  have hcases : (c.isUpper || c.isLower) = false := h
  exact toLower_of_isUpper_eq_false (Bool.or_eq_false_iff.1 hcases).1

theorem toLower_of_isDigit {c : Char} (h : c.isDigit = true) : c.toLower = c := by
  have hbounds : (decide ('0'.val ≤ c.val) && decide (c.val ≤ '9'.val)) = true := h
  have hhigh : c.val ≤ '9'.val := of_decide_eq_true (Bool.and_eq_true_iff.1 hbounds).2
  refine toLower_of_isUpper_eq_false (decide_eq_false ?_)
  rintro ⟨hlow, -⟩
  exact absurd (UInt32.le_trans hlow hhigh) (by decide)

private theorem isLower_toLower {c : Char} (h : c.isUpper = true) : c.toLower.isLower = true := by
  have hbounds : 'A'.val ≤ c.val ∧ c.val ≤ 'Z'.val := of_decide_eq_true h
  have hval : c.toLower.val = c.val + 32 := congrArg Char.val (dif_pos hbounds)
  obtain ⟨hlow, hhigh⟩ := hbounds
  have hlower : 'a'.val ≤ c.toLower.val ∧ c.toLower.val ≤ 'z'.val := by
    rw [hval]
    simp only [UInt32.le_iff_toNat_le, UInt32.toNat_add] at hlow hhigh ⊢
    simp at hlow hhigh ⊢
    omega
  exact Bool.and_eq_true_iff.2 ⟨decide_eq_true hlower.1, decide_eq_true hlower.2⟩

theorem eq_of_toLower_eq {c d : Char} (hd : d.isAlpha = false) (h : c.toLower = d.toLower) :
    c = d := by
  rw [toLower_of_isAlpha_eq_false hd] at h
  by_cases hupper : c.isUpper = true
  · have hlower := isLower_toLower hupper
    have hcases : (d.isUpper || d.isLower) = false := hd
    rw [h, (Bool.or_eq_false_iff.1 hcases).2] at hlower
    exact Bool.noConfusion hlower
  · rwa [toLower_of_isUpper_eq_false (by simpa using hupper)] at h

private theorem isAlpha_of_isBlank {c : Char} (h : isBlank c = true) : c.isAlpha = false := by
  have hcodes : ∀ code ∈ blankCodes, (Char.ofNat code).isAlpha = false := by decide
  have hmem : c.toNat ∈ blankCodes := by simpa [isBlank] using h
  have hletter := hcodes c.toNat hmem
  rwa [Char.ofNat_toNat] at hletter

private theorem isBlank_toLower (c : Char) : isBlank c.toLower = isBlank c := by
  by_cases hc : isBlank c = true
  · rw [toLower_of_isAlpha_eq_false (isAlpha_of_isBlank hc)]
  · by_cases hlower : isBlank c.toLower = true
    · have hletter := isAlpha_of_isBlank hlower
      have hsame := eq_of_toLower_eq hletter (toLower_of_isAlpha_eq_false hletter).symm
      rw [← hsame]
    · rw [Bool.not_eq_true] at hc hlower
      rw [hc, hlower]

theorem words_foldCase (text : Text) : words (foldCase text) = (words text).map foldCase := by
  have hsplit : (foldCase text).splitOnP isBlank = (text.splitOnP isBlank).map foldCase := by
    induction text with
    | nil => simp [foldCase]
    | cons c text ih =>
      have hcons : foldCase (c :: text) = c.toLower :: foldCase text := rfl
      rw [hcons, List.splitOnP_cons_eq_if_modifyHead, List.splitOnP_cons_eq_if_modifyHead,
        isBlank_toLower, ih]
      split
      · rfl
      · cases text.splitOnP isBlank <;> rfl
  rw [words, words, hsplit, List.filter_map]
  congr 1
  refine List.filter_congr fun piece _ => ?_
  cases piece <;> rfl

theorem not_sameLetters_of_mem {keyword word : Text} {c : Char} (hmem : c ∈ word)
    (h : c.toLower ∉ foldCase keyword) : sameLetters keyword word = false := by
  rw [sameLetters, beq_eq_false_iff_ne]
  intro hsame
  have hfolded : c.toLower ∈ foldCase word := List.mem_map_of_mem hmem
  exact h (hsame ▸ hfolded)

theorem not_sameLetters_of_forall {keyword word : Text} {c : Char} (hmem : c ∈ foldCase keyword)
    (h : ∀ d ∈ word, d.toLower ≠ c) : sameLetters keyword word = false := by
  rw [sameLetters, beq_eq_false_iff_ne]
  intro hsame
  rw [hsame] at hmem
  obtain ⟨d, hd, hlower⟩ := List.mem_map.1 hmem
  exact h d hd hlower

end SqlSelect.Text
