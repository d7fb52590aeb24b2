import SqlSelect.Proofs.Text.Nested

/-!
Runs of words between separators outside parentheses. Main statement: the runs of two lists of words
are the runs of their concatenation, but for the two that meet.
-/

set_option autoImplicit false
set_option relaxedAutoImplicit false

namespace SqlSelect.Text

/-- The runs of words between those that satisfy `p` and are outside parentheses. -/
def splitWords (p : Text → Bool) : Int → List Text → List (List Text)
  | _, [] => [[]]
  | start, word :: rest =>
    if start + depth word = 0 ∧ p word = true then [] :: splitWords p (start + depth word) rest
    else (splitWords p (start + depth word) rest).modifyHead (word :: ·)

variable {p : Text → Bool}

theorem splitWords_ne_nil (start : Int) (pieces : List Text) : splitWords p start pieces ≠ [] := by
  induction pieces generalizing start with
  | nil => simp [splitWords]
  | cons word rest ih =>
    rw [splitWords]
    split
    · simp
    · obtain ⟨first, others, hsplit⟩ := List.exists_cons_of_ne_nil (ih (start + depth word))
      simp [hsplit]

theorem sublist_of_mem_splitWords {start : Int} {pieces run : List Text}
    (h : run ∈ splitWords p start pieces) : List.Sublist run pieces := by
  induction pieces generalizing start run with
  | nil =>
    rw [splitWords, List.mem_singleton] at h
    rw [h]
  | cons word rest ih =>
    rw [splitWords] at h
    split at h
    · rcases List.mem_cons.1 h with rfl | hmem
      · exact List.nil_sublist _
      · exact (ih hmem).cons word
    · obtain ⟨first, others, hsplit⟩ :=
        List.exists_cons_of_ne_nil (@splitWords_ne_nil p (start + depth word) rest)
      have hruns (other : List Text) (hmem : other ∈ first :: others) : List.Sublist other rest :=
        ih (hsplit ▸ hmem)
      rw [hsplit, List.modifyHead_cons] at h
      rcases List.mem_cons.1 h with rfl | hmem
      · exact (hruns first List.mem_cons_self).cons_cons word
      · exact (hruns run (List.mem_cons_of_mem _ hmem)).cons word

theorem splitWords_of_freeOf {start : Int} {pieces : List Text}
    (h : freeOf p start pieces = true) : splitWords p start pieces = [pieces] := by
  induction pieces generalizing start with
  | nil => rfl
  | cons word rest ih =>
    rw [freeOf, Bool.and_eq_true] at h
    obtain ⟨hword, hrest⟩ := h
    have hinside : ¬(start + depth word = 0 ∧ p word = true) := by
      rintro ⟨hdepth, hp⟩
      simp [hdepth, hp] at hword
    rw [splitWords, if_neg hinside, ih hrest, List.modifyHead_cons]

theorem splitWords_append {start : Int} {left right : List Text} {front back : List (List Text)}
    {last first : List Text} (hleft : splitWords p start left = front ++ [last])
    (hright : splitWords p (start + depth left.flatten) right = first :: back) :
    splitWords p start (left ++ right) = front ++ (last ++ first) :: back := by
  induction left generalizing start front last with
  | nil =>
    have hnil : front ++ [last] = [[]] := hleft.symm
    obtain ⟨rfl, hlast⟩ := List.append_eq_singleton_iff.1 hnil |>.resolve_right (by simp)
    rw [List.singleton_inj.1 hlast]
    simpa using hright
  | cons word rest ih =>
    rw [List.flatten_cons, depth_append, ← Int.add_assoc] at hright
    rw [splitWords] at hleft
    rw [List.cons_append, splitWords]
    split at hleft
    · next hseparates =>
      rw [if_pos hseparates]
      cases front with
      | nil => simp [splitWords_ne_nil] at hleft
      | cons head front =>
        obtain ⟨rfl, htail⟩ := List.cons.inj hleft
        rw [ih htail hright, List.cons_append]
    · next hstays =>
      rw [if_neg hstays]
      obtain ⟨run, runs, hrest⟩ :=
        List.exists_cons_of_ne_nil (@splitWords_ne_nil p (start + depth word) rest)
      rw [hrest, List.modifyHead_cons] at hleft
      cases front with
      | nil =>
        obtain ⟨rfl, rfl⟩ := List.cons.inj hleft
        have hwhole := @ih _ [] run hrest hright
        rw [hwhole]
        rfl
      | cons head front =>
        obtain ⟨rfl, rfl⟩ := List.cons.inj hleft
        have hwhole := @ih _ (run :: front) last hrest hright
        rw [hwhole]
        rfl

theorem splitWords_append_separator {start : Int} {left right : List Text} {separator : Text}
    (hp : p separator = true) (hdepth : start + depth left.flatten + depth separator = 0) :
    splitWords p start (left ++ separator :: right) =
      splitWords p start left ++ splitWords p 0 right := by
  obtain ⟨front, last, hleft⟩ :=
    (List.eq_nil_or_concat' (splitWords p start left)).resolve_left (splitWords_ne_nil start left)
  have hright : splitWords p (start + depth left.flatten) (separator :: right) =
      [] :: splitWords p 0 right := by
    rw [splitWords, if_pos ⟨hdepth, hp⟩, hdepth]
  rw [splitWords_append hleft hright, hleft, List.append_nil, List.append_assoc]
  rfl

private theorem splitWords_eq_singleton_iff {start : Int} {pieces run : List Text} :
    splitWords p start pieces = [run] ↔ run = pieces ∧ freeOf p start pieces = true := by
  constructor
  · intro h
    induction pieces generalizing start run with
    | nil => exact ⟨(List.singleton_inj.1 h).symm, rfl⟩
    | cons word rest ih =>
      rw [splitWords] at h
      split at h
      · exact absurd (List.cons.inj h).2 (splitWords_ne_nil _ rest)
      · next hstays =>
        obtain ⟨first, others, hsplit⟩ :=
          List.exists_cons_of_ne_nil (@splitWords_ne_nil p (start + depth word) rest)
        rw [hsplit, List.modifyHead_cons] at h
        obtain ⟨rfl, rfl⟩ := List.cons.inj h
        obtain ⟨rfl, hfree⟩ := ih hsplit
        refine ⟨rfl, ?_⟩
        rw [freeOf, hfree, Bool.and_true, Bool.not_eq_true', ← Bool.not_eq_true]
        simpa using hstays
  · rintro ⟨rfl, hfree⟩
    exact splitWords_of_freeOf hfree

theorem splitWords_eq_pair_iff {start : Int} {pieces left right : List Text} :
    splitWords p start pieces = [left, right] ↔ ∃ separator, p separator = true ∧
      pieces = left ++ separator :: right ∧ start + depth left.flatten + depth separator = 0 ∧
      freeOf p start left = true ∧ freeOf p 0 right = true := by
  constructor
  · intro h
    induction pieces generalizing start left with
    | nil => cases h
    | cons word rest ih =>
      rw [splitWords] at h
      split at h
      · next hseparates =>
        obtain ⟨hdepth, hp⟩ := hseparates
        obtain ⟨rfl, hrest⟩ := List.cons.inj h
        rw [hdepth] at hrest
        obtain ⟨rfl, hfree⟩ := splitWords_eq_singleton_iff.1 hrest
        exact ⟨word, hp, rfl, by simpa using hdepth, rfl, hfree⟩
      · next hstays =>
        obtain ⟨first, others, hsplit⟩ :=
          List.exists_cons_of_ne_nil (@splitWords_ne_nil p (start + depth word) rest)
        rw [hsplit, List.modifyHead_cons] at h
        obtain ⟨rfl, rfl⟩ := List.cons.inj h
        obtain ⟨separator, hp, rfl, hdepth, hleft, hright⟩ := ih hsplit
        refine ⟨separator, hp, rfl, ?_, ?_, hright⟩
        · rw [List.flatten_cons, depth_append]
          omega
        · rw [freeOf, hleft, Bool.and_true, Bool.not_eq_true', ← Bool.not_eq_true]
          simpa using hstays
  · rintro ⟨separator, hp, rfl, hdepth, hleft, hright⟩
    rw [splitWords_append_separator hp hdepth, splitWords_of_freeOf hleft,
      splitWords_of_freeOf hright]
    rfl

theorem depth_last_splitWords {start : Int} {left : List Text} {front : List (List Text)}
    {last : List Text} (h : splitWords p start left = front ++ [last]) :
    depth last.flatten = depth left.flatten + if front = [] then 0 else start := by
  induction left generalizing start front last with
  | nil =>
    have hnil : front ++ [last] = [[]] := h.symm
    obtain ⟨rfl, hlast⟩ := List.append_eq_singleton_iff.1 hnil |>.resolve_right (by simp)
    simp [List.singleton_inj.1 hlast]
  | cons word rest ih =>
    rw [splitWords] at h
    rw [List.flatten_cons, depth_append]
    split at h
    · next hseparates =>
      cases front with
      | nil => simp [splitWords_ne_nil] at h
      | cons head front =>
        obtain ⟨-, htail⟩ := List.cons.inj h
        have hrest := ih htail
        rw [hseparates.1, ite_self] at hrest
        rw [if_neg (by simp)]
        omega
    · next hstays =>
      obtain ⟨run, runs, hsplit⟩ :=
        List.exists_cons_of_ne_nil (@splitWords_ne_nil p (start + depth word) rest)
      rw [hsplit, List.modifyHead_cons] at h
      cases front with
      | nil =>
        obtain ⟨rfl, rfl⟩ := List.cons.inj h
        have hrest := @ih _ [] run hsplit
        simpa using hrest
      | cons head front =>
        obtain ⟨rfl, rfl⟩ := List.cons.inj h
        have hrest := @ih _ (run :: front) last hsplit
        rw [if_neg (by simp)] at hrest ⊢
        omega

end SqlSelect.Text
