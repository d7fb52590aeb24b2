import SqlSelect.Proofs.Text.Tidy

/-!
Comments in a text that is put together. Main statement: what stands in front of a text stays as it
is, and what stands behind it stays if no comment begins on the line that the text ends on, and goes
with that comment otherwise.
-/

set_option autoImplicit false
set_option relaxedAutoImplicit false

namespace SqlSelect.Text

def lastLine (text : Text) : Text := (text.splitOn '\n').getLast?.getD []

private theorem beforeComment_cons {c : Char} {rest : Text}
    (h : ¬(c = '-' ∧ rest.head? = some '-')) :
    beforeComment (c :: rest) = c :: beforeComment rest := by
  rw [beforeComment]
  rintro tail rfl rfl
  exact h ⟨rfl, rfl⟩

theorem beforeComment_append {front : Text} (h : front.IsUncommented)
    (hlast : front.getLast? ≠ some '-') (back : Text) :
    beforeComment (front ++ back) = front ++ beforeComment back := by
  induction front with
  | nil => rfl
  | cons c front ih =>
    cases front with
    | nil =>
      have hc : c ≠ '-' := fun hc => hlast (congrArg some hc)
      exact beforeComment_cons fun hpair => hc hpair.1
    | cons d front =>
      obtain ⟨hpair, hfront⟩ := List.isChain_cons_cons.1 h
      have hmore := ih hfront (by rwa [List.getLast?_cons_cons] at hlast)
      have hstep : ¬(c = '-' ∧ (d :: front ++ back).head? = some '-') :=
        fun hboth => hpair ⟨hboth.1, Option.some.inj hboth.2⟩
      rw [List.cons_append, beforeComment_cons hstep, hmore]
      rfl

theorem beforeComment_append_of_comment {front : Text} (h : ¬front.IsUncommented) (back : Text) :
    beforeComment (front ++ back) = beforeComment front := by
  induction front with
  | nil => exact absurd List.IsChain.nil h
  | cons c front ih =>
    cases front with
    | nil => exact absurd (List.IsChain.singleton c) h
    | cons d front =>
      by_cases hpair : c = '-' ∧ d = '-'
      · obtain ⟨rfl, rfl⟩ := hpair
        rfl
      · have hmore := ih fun hfront => h (List.isChain_cons_cons.2 ⟨hpair, hfront⟩)
        have hstep (rest : Text) : ¬(c = '-' ∧ (d :: rest).head? = some '-') :=
          fun hboth => hpair ⟨hboth.1, Option.some.inj hboth.2⟩
        rw [List.cons_append, List.cons_append, beforeComment_cons (hstep (front ++ back)),
          beforeComment_cons (hstep front)]
        exact congrArg (c :: ·) hmore

private theorem splitOn_append_left {front : Text} (h : '\n' ∉ front) (text : Text) :
    ∃ line lines, text.splitOn '\n' = line :: lines ∧
      (front ++ text).splitOn '\n' = (front ++ line) :: lines := by
  obtain ⟨line, lines, htext⟩ := List.exists_cons_of_ne_nil (List.splitOn_ne_nil '\n' text)
  refine ⟨line, lines, htext, ?_⟩
  induction front with
  | nil => exact htext
  | cons c front ih =>
    obtain ⟨hc, hfront⟩ := not_or.1 (mt List.mem_cons.2 h)
    have hmore := ih hfront
    rw [List.splitOn] at hmore ⊢
    rw [List.cons_append, List.splitOnP_cons_eq_if_modifyHead, if_neg (by simpa using Ne.symm hc),
      hmore]
    rfl

private theorem splitOn_append_right {back : Text} (h : '\n' ∉ back) (text : Text) :
    ∃ lines, text.splitOn '\n' = lines ++ [lastLine text] ∧
      (text ++ back).splitOn '\n' = lines ++ [lastLine text ++ back] := by
  have hsplit : ∃ lines line, text.splitOn '\n' = lines ++ [line] ∧
      (text ++ back).splitOn '\n' = lines ++ [line ++ back] := by
    induction text with
    | nil =>
      have hwhole : back.splitOn '\n' = [back] := by
        rw [List.splitOn, List.splitOnP_eq_singleton]
        intro c hc
        rw [beq_eq_false_iff_ne]
        rintro rfl
        exact h hc
      exact ⟨[], [], List.splitOn_nil _, hwhole⟩
    | cons c text ih =>
      obtain ⟨lines, line, htext, hwhole⟩ := ih
      rw [List.splitOn] at htext hwhole
      rw [List.splitOn, List.splitOn, List.cons_append, List.splitOnP_cons_eq_if_modifyHead,
        List.splitOnP_cons_eq_if_modifyHead, htext, hwhole]
      split
      · exact ⟨[] :: lines, line, rfl, rfl⟩
      · cases lines with
        | nil => exact ⟨[], c :: line, rfl, rfl⟩
        | cons first lines => exact ⟨(c :: first) :: lines, line, rfl, rfl⟩
  obtain ⟨lines, line, htext, hwhole⟩ := hsplit
  have hlast : lastLine text = line := by
    rw [lastLine, htext, List.getLast?_concat]
    rfl
  exact ⟨lines, by rw [hlast, htext], by rw [hlast, hwhole]⟩

private theorem joinWith_concat_append (separator : Text) (front : List Text) (last back : Text) :
    joinWith separator (front ++ [last ++ back]) = joinWith separator (front ++ [last]) ++ back := by
  cases front with
  | nil => simp
  | cons first front =>
    simp only [List.cons_append, joinWith_eq_flatMap, List.flatMap_append, List.flatMap_singleton,
      List.append_assoc]

theorem lastLine_append {back : Text} (h : '\n' ∉ back) (text : Text) :
    lastLine (text ++ back) = lastLine text ++ back := by
  obtain ⟨lines, -, hwhole⟩ := splitOn_append_right h text
  rw [lastLine, hwhole, List.getLast?_concat]
  rfl

theorem lastLine_suffix_withoutComments {text : Text} (h : (lastLine text).IsUncommented) :
    lastLine text <:+ withoutComments text := by
  obtain ⟨lines, htext, -⟩ := splitOn_append_right (List.not_mem_nil (a := '\n')) text
  have hlast := joinWith_concat_append [' '] (lines.map beforeComment) [] (lastLine text)
  rw [List.nil_append] at hlast
  rw [withoutComments, htext, List.map_append, List.map_singleton, beforeComment_eq h, unwords,
    hlast]
  exact List.suffix_append _ _

private theorem lastLine_suffix (text : Text) : lastLine text <:+ text := by
  obtain ⟨lines, htext, -⟩ := splitOn_append_right (List.not_mem_nil (a := '\n')) text
  have hwhole : joinWith ['\n'] (lines ++ [lastLine text]) = text := by
    rw [← htext]
    exact List.intercalate_splitOn '\n'
  have hlast := joinWith_concat_append ['\n'] lines [] (lastLine text)
  exact ⟨_, (hlast.symm.trans hwhole)⟩

private theorem getLast?_lastLine {text : Text} {c : Char} (h : text.getLast? ≠ some c) :
    (lastLine text).getLast? ≠ some c := by
  intro hlast
  obtain ⟨front, hfront⟩ := lastLine_suffix text
  rw [← hfront, List.getLast?_append, hlast] at h
  exact h rfl

theorem withoutComments_append_left {front : Text} (h : front.IsUncommented)
    (hlast : front.getLast? ≠ some '-') (hline : '\n' ∉ front) (text : Text) :
    withoutComments (front ++ text) = front ++ withoutComments text := by
  obtain ⟨line, lines, htext, hwhole⟩ := splitOn_append_left hline text
  rw [withoutComments, withoutComments, htext, hwhole, List.map_cons, List.map_cons,
    beforeComment_append h hlast, unwords_eq_flatMap, unwords_eq_flatMap, List.append_assoc]

/-- What stands behind a text goes with a comment on the line that the text ends on. -/
theorem withoutComments_append_right {text back : Text} (hlast : text.getLast? ≠ some '-')
    (hback : back.IsUncommented) (hline : '\n' ∉ back) :
    withoutComments (text ++ back) =
      withoutComments text ++ if (lastLine text).IsUncommented then back else [] := by
  obtain ⟨lines, htext, hwhole⟩ := splitOn_append_right hline text
  rw [withoutComments, withoutComments, htext, hwhole, List.map_append, List.map_append,
    List.map_singleton, List.map_singleton]
  split
  · next hopen =>
    rw [beforeComment_append hopen (getLast?_lastLine hlast), beforeComment_eq hback,
      beforeComment_eq hopen, unwords, unwords, joinWith_concat_append]
  · next hcomment => rw [beforeComment_append_of_comment hcomment, List.append_nil]

end SqlSelect.Text
