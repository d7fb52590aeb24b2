import SqlSelect.Proofs.Text.Entries

/-!
Texts that are one pair of parentheses, and texts with one separator outside parentheses. Main
statements: what stands between `(` and `)` is in a pair exactly if its own parentheses are well
nested, and a text is cut into two pieces exactly at its only separator outside parentheses.
-/

set_option autoImplicit false
set_option relaxedAutoImplicit false

namespace SqlSelect.Text

/-- The text begins with a `(` that its last character closes and no character before that one. -/
structure IsPair (text : Text) : Prop where
  opens : text.head? = some '('
  closes : text.getLast? = some ')'
  closed : depth text = 0
  stays : ∀ front : Text, front <+: text → front ≠ [] → front ≠ text → 0 < depth front

theorem isPair_iff (inner : Text) : IsPair ('(' :: inner ++ [')']) ↔ inner.IsNested := by
  have hopening : charDepth '(' = 1 := rfl
  have hclosing : depth [')'] = -1 := rfl
  have hwhole : depth ('(' :: inner ++ [')']) = depth inner := by
    rw [depth_append, depth_cons, hopening, hclosing]
    omega
  constructor
  · rintro ⟨-, -, hclosed, hstays⟩
    refine ⟨hwhole ▸ hclosed, fun front hfront => ?_⟩
    have hbegins : '(' :: front <+: '(' :: inner ++ [')'] :=
      List.cons_prefix_cons.2 ⟨rfl, hfront.trans (List.prefix_append inner [')'])⟩
    have hproper : '(' :: front ≠ '(' :: inner ++ [')'] := by
      intro heq
      have hlength := hfront.length_le
      have hlonger := congrArg List.length heq
      simp only [List.cons_append, List.length_cons, List.length_append, List.length_nil] at hlonger
      omega
    have hopen := hstays _ hbegins (List.cons_ne_nil _ _) hproper
    rw [depth_cons, hopening] at hopen
    omega
  · rintro ⟨hclosed, hopened⟩
    have hcloses : ('(' :: inner ++ [')']).getLast? = some ')' := List.getLast?_concat
    refine ⟨rfl, hcloses, hwhole.trans hclosed, fun front hfront hne hproper => ?_⟩
    rcases List.prefix_cons_iff.1 hfront with rfl | ⟨read, rfl, hread⟩
    · exact absurd rfl hne
    · have hin : read <+: inner := by
        rcases List.prefix_concat_iff.1 hread with rfl | hin
        · exact absurd rfl hproper
        · exact hin
      have hdepth := hopened read hin
      rw [depth_cons, hopening]
      omega

section Cutting

variable {separator : Char} {text front back : Text}

theorem splitFrom_ne_nil (start : Int) (text : Text) : splitFrom separator start text ≠ [] := by
  cases text with
  | nil => exact List.cons_ne_nil _ _
  | cons c rest =>
    rw [splitFrom]
    split
    · exact List.cons_ne_nil _ _
    · intro h
      exact splitFrom_ne_nil _ rest (List.modifyHead_eq_nil_iff.1 h)

private theorem eq_of_splitFrom_eq_singleton {start : Int} {piece : Text}
    (h : splitFrom separator start text = [piece]) : piece = text := by
  induction text generalizing start piece with
  | nil => exact (List.singleton_inj.1 h).symm
  | cons c rest ih =>
    rw [splitFrom] at h
    split at h
    · exact absurd (List.cons.inj h).2 (splitFrom_ne_nil _ rest)
    · cases hsplit : splitFrom separator (start + charDepth c) rest with
      | nil => exact absurd hsplit (splitFrom_ne_nil _ rest)
      | cons first others =>
        rw [hsplit, List.modifyHead_cons] at h
        obtain ⟨rfl, rfl⟩ := List.cons.inj h
        rw [ih hsplit]

private theorem isUncut_iff {start : Int} : IsUncut separator start text ↔
    ∀ left right, text = left ++ separator :: right → start + depth left ≠ 0 := by
  induction text generalizing start with
  | nil => simp [IsUncut, splitFrom]
  | cons c rest ih =>
    constructor
    · intro h left right hsplit hdepth
      obtain ⟨hstays, hrest⟩ := h.of_cons
      cases left with
      | nil => exact hstays ⟨(List.cons.inj hsplit).1, by simpa using hdepth⟩
      | cons first left =>
        obtain ⟨rfl, hinner⟩ := List.cons.inj hsplit
        refine ih.1 hrest left right hinner ?_
        rw [depth_cons] at hdepth
        omega
    · intro h
      have hstays : ¬(c = separator ∧ start = 0) := by
        rintro ⟨rfl, rfl⟩
        exact h [] rest rfl rfl
      have hrest : IsUncut separator (start + charDepth c) rest := by
        refine ih.2 fun left right hsplit hdepth => h (c :: left) right (by rw [hsplit]; rfl) ?_
        rw [depth_cons]
        omega
      rw [IsUncut, splitFrom, if_neg hstays, hrest, List.modifyHead_cons]

/-- The text has one separator outside parentheses, and it stands between the two texts. -/
structure IsCutOnce (separator : Char) (text front back : Text) : Prop where
  whole : text = front ++ separator :: back
  outside : depth front = 0
  alone : ∀ left right, text = left ++ separator :: right → depth left = 0 → left = front

theorem IsCutOnce.suffix (h : IsCutOnce separator text front back) : back <:+ text := by
  rw [h.whole]
  exact (List.suffix_cons separator back).trans (List.suffix_append front _)

private theorem of_splitFrom_eq_pair {start : Int}
    (h : splitFrom separator start text = [front, back]) :
    text = front ++ separator :: back ∧ start + depth front = 0 ∧
      IsUncut separator start front ∧ IsUncut separator 0 back := by
  induction text generalizing start front with
  | nil => cases h
  | cons c rest ih =>
    rw [splitFrom] at h
    split at h
    · next hcut =>
      obtain ⟨rfl, rfl⟩ := hcut
      obtain ⟨rfl, hrest⟩ := List.cons.inj h
      obtain rfl := eq_of_splitFrom_eq_singleton hrest
      exact ⟨rfl, rfl, rfl, hrest⟩
    · next hstays =>
      cases hsplit : splitFrom separator (start + charDepth c) rest with
      | nil => exact absurd hsplit (splitFrom_ne_nil _ rest)
      | cons first others =>
        rw [hsplit, List.modifyHead_cons] at h
        obtain ⟨rfl, rfl⟩ := List.cons.inj h
        obtain ⟨hwhole, hdepth, hfront, hback⟩ := ih hsplit
        refine ⟨by rw [hwhole]; rfl, by rw [depth_cons]; omega, ?_, hback⟩
        rw [IsUncut, splitFrom, if_neg hstays, hfront, List.modifyHead_cons]

theorem splitTopLevel_eq_pair_iff (hflat : charDepth separator = 0) :
    splitTopLevel separator text = [front, back] ↔ IsCutOnce separator text front back := by
  constructor
  · intro h
    obtain ⟨hwhole, hdepth, hfront, hback⟩ := of_splitFrom_eq_pair h
    refine ⟨hwhole, by omega, fun left right hsplit hleft => ?_⟩
    -- any other separator stands in one of the two pieces, and there inside parentheses
    rcases List.append_eq_append_iff.1 (hwhole.symm.trans hsplit) with
      ⟨between, rfl, hbehind⟩ | ⟨between, rfl, hbehind⟩
    · cases between with
      | nil => exact List.append_nil front
      | cons c between =>
        obtain ⟨rfl, hinner⟩ := List.cons.inj hbehind
        rw [depth_append, depth_cons] at hleft
        exact absurd (by omega) (isUncut_iff.1 hback between right hinner)
    · cases between with
      | nil => exact (List.append_nil left).symm
      | cons c between =>
        obtain ⟨rfl, -⟩ := List.cons.inj hbehind
        exact absurd (by omega) (isUncut_iff.1 hfront left between rfl)
  · rintro ⟨rfl, hdepth, halone⟩
    have hfront : IsUncut separator 0 front := by
      refine isUncut_iff.2 fun left right hsplit hleft => ?_
      have hsame := halone left (right ++ separator :: back) (by rw [hsplit]; simp) (by omega)
      rw [← hsame] at hsplit
      simp at hsplit
    have hback : IsUncut separator 0 back := by
      refine isUncut_iff.2 fun left right hsplit hleft => ?_
      have hsame := halone (front ++ separator :: left) right (by rw [hsplit]; simp) (by
        rw [depth_append, depth_cons]
        omega)
      simp at hsame
    rw [splitTopLevel, hfront.splitFrom_append_separator hdepth, hback]

end Cutting

end SqlSelect.Text
