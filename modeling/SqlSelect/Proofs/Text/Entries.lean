import SqlSelect.Proofs.Text.Tidy

/-!
Texts cut at a character outside parentheses. Main statement: entries with commas between them are
read back one by one.
-/

set_option autoImplicit false
set_option relaxedAutoImplicit false

namespace SqlSelect.Text

variable {separator : Char}

/-- No separator stands outside parentheses when the text starts at `start`. -/
def IsUncut (separator : Char) (start : Int) (text : Text) : Prop :=
  splitFrom separator start text = [text]

theorem isUncut_of_notMem {text : Text} (h : separator ∉ text) (start : Int) :
    IsUncut separator start text := by
  induction text generalizing start with
  | nil => rfl
  | cons c rest ih =>
    obtain ⟨hc, hrest⟩ := not_or.1 (mt List.mem_cons.2 h)
    rw [IsUncut, splitFrom, if_neg fun hboth => hc hboth.1.symm, ih hrest, List.modifyHead_cons]

theorem IsUncut.of_cons {start : Int} {c : Char} {text : Text}
    (h : IsUncut separator start (c :: text)) :
    ¬(c = separator ∧ start = 0) ∧ IsUncut separator (start + charDepth c) text := by
  rw [IsUncut, splitFrom] at h
  split at h
  · simp at h
  · next hstays =>
    refine ⟨hstays, ?_⟩
    cases hsplit : splitFrom separator (start + charDepth c) text with
    | nil => simp [hsplit] at h
    | cons first rest =>
      rw [hsplit, List.modifyHead_cons] at h
      obtain ⟨hfirst, hrest⟩ := List.cons.inj h
      rw [IsUncut, hsplit, List.cons.inj hfirst |>.2, hrest]

private theorem IsUncut.splitFrom_append {start : Int} {text : Text}
    (h : IsUncut separator start text)
    (rest : Text) : splitFrom separator start (text ++ rest) =
      (splitFrom separator (start + depth text) rest).modifyHead (text ++ ·) := by
  induction text generalizing start with
  | nil =>
    rw [List.nil_append, depth_nil, Int.add_zero]
    cases splitFrom separator start rest <;> rfl
  | cons c text ih =>
    obtain ⟨hstays, htext⟩ := h.of_cons
    rw [List.cons_append, splitFrom, if_neg hstays, ih htext, List.modifyHead_modifyHead, depth_cons,
      Int.add_assoc]
    rfl

theorem IsUncut.append {start : Int} {left right : Text} (hleft : IsUncut separator start left)
    (hright : IsUncut separator (start + depth left) right) :
    IsUncut separator start (left ++ right) := by
  rw [IsUncut, hleft.splitFrom_append, hright, List.modifyHead_cons]

theorem IsUncut.splitFrom_append_separator {text : Text} (h : IsUncut separator 0 text)
    (hdepth : depth text = 0) (rest : Text) :
    splitFrom separator 0 (text ++ separator :: rest) = text :: splitFrom separator 0 rest := by
  have hcut : splitFrom separator 0 (separator :: rest) = [] :: splitFrom separator 0 rest := by
    rw [splitFrom, if_pos ⟨rfl, rfl⟩]
  rw [h.splitFrom_append, hdepth, Int.add_zero, hcut, List.modifyHead_cons, List.append_nil]

private theorem isUncut_of_depth {start : Int} {text : Text}
    (h : ∀ front : Text, front <+: text → front ≠ text → start + depth front ≠ 0) :
    IsUncut separator start text := by
  induction text generalizing start with
  | nil => rfl
  | cons c rest ih =>
    have hstart : start ≠ 0 := by simpa using h [] (by simp) (by simp)
    rw [IsUncut, splitFrom, if_neg fun hboth => hstart hboth.2]
    have hrest : IsUncut separator (start + charDepth c) rest := by
      refine ih fun front hfront hne => ?_
      have hdepth := h (c :: front) (List.cons_prefix_cons.2 ⟨rfl, hfront⟩) (by simpa using hne)
      rw [depth_cons] at hdepth
      omega
    rw [hrest, List.modifyHead_cons]

theorem isUncut_parentheses {text : Text} (h : text.IsNested) (hopening : separator ≠ '(') :
    IsUncut separator 0 ('(' :: text ++ [')']) := by
  have hone : depth ['('] = 1 := rfl
  have hinner : IsUncut separator (0 + depth ['(']) (text ++ [')']) := by
    refine isUncut_of_depth fun front hfront hne => ?_
    have hin := (List.prefix_concat_iff.1 hfront).resolve_left hne
    have hdepth := h.opened front hin
    omega
  have hfront : IsUncut separator 0 ['('] := isUncut_of_notMem (by simpa using hopening) 0
  exact hfront.append hinner

structure IsListed (entry : Text) : Prop where
  tidy : entry.IsTidy
  uncut : IsUncut ',' 0 entry

theorem trim_cons_space (text : Text) : trim (' ' :: text) = trim text := by
  rw [trim, trimStart, List.dropWhile_cons_of_pos (by decide)]
  rfl

private theorem map_trim_splitTopLevel_cons_space (text : Text) :
    (splitTopLevel ',' (' ' :: text)).map trim = (splitTopLevel ',' text).map trim := by
  have hspace : ¬(' ' = ',' ∧ (0 : Int) = 0) := by decide
  have hdepth : (0 : Int) + charDepth ' ' = 0 := rfl
  rw [splitTopLevel, splitFrom, if_neg hspace, hdepth, splitTopLevel]
  cases splitFrom ',' 0 text with
  | nil => rfl
  | cons first rest => rw [List.modifyHead_cons, List.map_cons, List.map_cons, trim_cons_space]

theorem items_joinWith {entries : List Text} (hne : entries ≠ [])
    (h : ∀ entry ∈ entries, entry.IsListed) : items (joinWith ", ".toList entries) = entries := by
  have htrimmed : (splitTopLevel ',' (joinWith ", ".toList entries)).map trim = entries := by
    induction entries with
    | nil => exact absurd rfl hne
    | cons entry rest ih =>
      obtain ⟨hentry, hothers⟩ := List.forall_mem_cons.1 h
      have htrim := hentry.tidy.spaced.trim_eq
      by_cases hrest : rest = []
      · rw [hrest, joinWith_singleton, splitTopLevel, hentry.uncut, List.map_singleton, htrim]
      · have hspelled : joinWith ", ".toList (entry :: rest) =
            entry ++ ',' :: ' ' :: joinWith ", ".toList rest := by
          rw [joinWith_cons_of_ne_nil _ _ hrest]
          simp
        rw [hspelled, splitTopLevel,
          hentry.uncut.splitFrom_append_separator hentry.tidy.nested.closed, List.map_cons, htrim,
          ← splitTopLevel, map_trim_splitTopLevel_cons_space, ih hrest hothers]
  rw [items, htrimmed, List.filter_eq_self]
  intro entry hentry
  simpa using (h entry hentry).tidy.spaced.filled

end SqlSelect.Text
