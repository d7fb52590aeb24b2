import SqlSelect.Text.Nesting
import SqlSelect.Proofs.Text.Words

/-!
Texts whose parentheses are well nested, and words outside all parentheses. Main statement: in a
text that is one pair of parentheses behind a name no word stands outside but the last.
-/

set_option autoImplicit false
set_option relaxedAutoImplicit false

namespace SqlSelect.Text

/-- Every parenthesis is closed, and none before it is opened. -/
structure IsNested (text : Text) : Prop where
  closed : depth text = 0
  opened : ∀ front : Text, front <+: text → 0 ≤ depth front

def closesFrom : Int → Text → Bool
  | depth, [] => depth == 0
  | depth, c :: rest => decide (0 ≤ depth + charDepth c) && closesFrom (depth + charDepth c) rest

private theorem closesFrom_iff {start : Int} (hstart : 0 ≤ start) (text : Text) :
    closesFrom start text = true ↔
      start + depth text = 0 ∧ ∀ front : Text, front <+: text → 0 ≤ start + depth front := by
  induction text generalizing start with
  | nil =>
    simp only [closesFrom, beq_iff_eq, depth_nil, List.prefix_nil, forall_eq]
    omega
  | cons c rest ih =>
    rw [closesFrom, Bool.and_eq_true, decide_eq_true_eq]
    constructor
    · rintro ⟨hnext, hrest⟩
      obtain ⟨hend, hfronts⟩ := (ih hnext).1 hrest
      refine ⟨by rw [depth_cons]; omega, fun front hfront => ?_⟩
      rcases List.prefix_cons_iff.1 hfront with rfl | ⟨front, rfl, hbegins⟩
      · simpa using hstart
      · have hdepth := hfronts front hbegins
        rw [depth_cons]
        omega
    · rintro ⟨hend, hfronts⟩
      have hnext : 0 ≤ start + charDepth c := by
        have hfirst := hfronts [c] (by simp)
        simpa using hfirst
      refine ⟨hnext, (ih hnext).2 ⟨by rw [depth_cons] at hend; omega, fun front hfront => ?_⟩⟩
      have hdepth := hfronts (c :: front) (List.cons_prefix_cons.2 ⟨rfl, hfront⟩)
      rw [depth_cons] at hdepth
      omega

theorem closesFrom_zero_iff (text : Text) : closesFrom 0 text = true ↔ text.IsNested := by
  rw [closesFrom_iff (Int.le_refl 0)]
  constructor
  · rintro ⟨hclosed, hopened⟩
    exact ⟨by omega, fun front hfront => by have hdepth := hopened front hfront; omega⟩
  · rintro ⟨hclosed, hopened⟩
    exact ⟨by omega, fun front hfront => by have hdepth := hopened front hfront; omega⟩

instance (text : Text) : Decidable text.IsNested := decidable_of_iff _ (closesFrom_zero_iff text)

private theorem depth_filter_isBlank (text : Text) :
    depth (text.filter (!isBlank ·)) = depth text := by
  induction text with
  | nil => rfl
  | cons c text ih =>
    by_cases hc : isBlank c = true
    · have hopening : c ≠ '(' := by rintro rfl; revert hc; decide
      have hclosing : c ≠ ')' := by rintro rfl; revert hc; decide
      simp [hc, ih, charDepth, hopening, hclosing]
    · simp [hc, ih]

theorem depth_flatten_words (text : Text) : depth (words text).flatten = depth text := by
  rw [flatten_words, depth_filter_isBlank]

private theorem isNested_filter_iff (text : Text) :
    IsNested (text.filter (!isBlank ·)) ↔ text.IsNested := by
  constructor
  · rintro ⟨hclosed, hopened⟩
    refine ⟨by rwa [depth_filter_isBlank] at hclosed, fun front hfront => ?_⟩
    have hdepth := hopened _ (hfront.filter _)
    rwa [depth_filter_isBlank] at hdepth
  · rintro ⟨hclosed, hopened⟩
    refine ⟨by rwa [depth_filter_isBlank], fun front hfront => ?_⟩
    obtain ⟨whole, hwhole, rfl⟩ := List.prefix_filter_iff.1 hfront
    rw [depth_filter_isBlank]
    exact hopened whole hwhole

theorem isNested_congr {left right : Text} (h : words left = words right) :
    left.IsNested ↔ right.IsNested := by
  rw [← isNested_filter_iff, ← flatten_words, h, flatten_words, isNested_filter_iff]

theorem depth_eq_zero_of_notMem {text : Text} (hopening : '(' ∉ text) (hclosing : ')' ∉ text) :
    depth text = 0 := by
  induction text with
  | nil => rfl
  | cons c text ih =>
    simp only [List.mem_cons, not_or] at hopening hclosing
    rw [depth_cons, ih hopening.2 hclosing.2, charDepth, if_neg (Ne.symm hopening.1),
      if_neg (Ne.symm hclosing.1)]
    rfl

theorem isNested_of_notMem {text : Text} (hopening : '(' ∉ text) (hclosing : ')' ∉ text) :
    text.IsNested where
  closed := depth_eq_zero_of_notMem hopening hclosing
  opened front hfront := by
    have hflat := depth_eq_zero_of_notMem (mt hfront.mem hopening) (mt hfront.mem hclosing)
    omega

theorem IsNested.append {left right : Text} (hleft : left.IsNested) (hright : right.IsNested) :
    IsNested (left ++ right) where
  closed := by rw [depth_append, hleft.closed, hright.closed]; rfl
  opened front hfront := by
    rcases List.prefix_or_prefix_of_prefix hfront (List.prefix_append left right) with hin | hout
    · exact hleft.opened front hin
    · obtain ⟨rest, rfl⟩ := hout
      have hrest := hright.opened rest ((List.prefix_append_right_inj left).1 hfront)
      rw [depth_append, hleft.closed]
      omega

theorem IsNested.parentheses {text : Text} (h : text.IsNested) :
    IsNested ('(' :: text ++ [')']) where
  closed := by
    rw [depth_append, depth_cons, h.closed]
    rfl
  opened front hfront := by
    have hone : charDepth '(' = 1 := rfl
    rcases List.prefix_cons_iff.1 hfront with rfl | ⟨read, rfl, hread⟩
    · exact Int.le_refl 0
    · rw [depth_cons, hone]
      rcases List.prefix_concat_iff.1 hread with rfl | hin
      · have hclosing : depth [')'] = -1 := rfl
        rw [depth_append, h.closed, hclosing]
        omega
      · have hdepth := h.opened read hin
        omega

/-- Whether no word outside parentheses satisfies `p`, when the words start at `depth`. A word is
outside if the parentheses up to its end are closed. -/
def freeOf (p : Text → Bool) : Int → List Text → Bool
  | _, [] => true
  | start, word :: rest =>
    !(decide (start + depth word = 0) && p word) && freeOf p (start + depth word) rest

theorem freeOf_iff {p : Text → Bool} {start : Int} {pieces : List Text} :
    freeOf p start pieces = true ↔ ∀ front word back, pieces = front ++ word :: back →
      start + depth (front.flatten ++ word) = 0 → p word = false := by
  induction pieces generalizing start with
  | nil => simp [freeOf]
  | cons first rest ih =>
    rw [freeOf, Bool.and_eq_true, ih]
    constructor
    · rintro ⟨hfirst, hrest⟩ front word back hsplit hdepth
      cases front with
      | nil =>
        obtain ⟨rfl, rfl⟩ := List.cons.inj hsplit
        have hsum : start + depth first = 0 := by simpa using hdepth
        simpa [hsum] using hfirst
      | cons head front =>
        obtain ⟨rfl, rfl⟩ := List.cons.inj hsplit
        refine hrest front word back rfl ?_
        rw [List.flatten_cons, List.append_assoc, depth_append] at hdepth
        omega
    · intro h
      refine ⟨?_, fun front word back hsplit hdepth => ?_⟩
      · by_cases hdepth : start + depth first = 0
        · have hp := h [] first rest rfl (by simpa using hdepth)
          simp [hp]
        · simp [hdepth]
      · refine h (first :: front) word back (by rw [hsplit, List.cons_append]) ?_
        rw [List.flatten_cons, List.append_assoc, depth_append]
        omega

theorem freeOf_append {p : Text → Bool} {start : Int} {left right : List Text} :
    freeOf p start (left ++ right) =
      (freeOf p start left && freeOf p (start + depth left.flatten) right) := by
  induction left generalizing start with
  | nil => simp [freeOf]
  | cons first rest ih =>
    rw [List.cons_append, freeOf, freeOf, ih, List.flatten_cons, depth_append, Bool.and_assoc,
      Int.add_assoc]

theorem freeOf_of_forall {p : Text → Bool} {pieces : List Text}
    (h : ∀ word ∈ pieces, p word = false) (start : Int) : freeOf p start pieces = true :=
  freeOf_iff.2 fun front word back hsplit _ => h word (by simp [hsplit])

theorem freeOf_mono {p q : Text → Bool} {pieces : List Text} {start : Int}
    (hpq : ∀ word, q word = false → p word = false) (h : freeOf q start pieces = true) :
    freeOf p start pieces = true :=
  freeOf_iff.2 fun front word back hsplit hdepth =>
    hpq word (freeOf_iff.1 h front word back hsplit hdepth)

private theorem exists_eq_concat {left right front : Text} {c : Char} (hne : right ≠ [])
    (h : left ++ right = front ++ [c]) : ∃ body, right = body ++ [c] ∧ left ++ body = front := by
  obtain ⟨body, last, rfl⟩ := (List.eq_nil_or_concat' right).resolve_left hne
  rw [← List.append_assoc] at h
  obtain ⟨hfront, hlast⟩ := List.append_inj' h rfl
  exact ⟨body, by rw [List.singleton_inj.1 hlast], hfront⟩

theorem freeOf_call {p : Text → Bool} (hp : ∀ word : Text, ')' ∈ word → p word = false)
    {name body : Text} (hname : ∀ c ∈ name, isBlank c = false) (hflat : depth name = 0)
    (hbody : body.IsNested) : freeOf p 0 (words (name ++ '(' :: body ++ [')'])) = true := by
  rw [freeOf_iff]
  intro front word back hsplit hdepth
  have hopening : Text.IsWord (name ++ ['(']) := isWord_concat hname (by decide)
  have hwhole : name ++ '(' :: body ++ [')'] = (name ++ ['(']) ++ (body ++ [')']) := by simp
  have hflatten : (front ++ word :: back).flatten =
      name ++ '(' :: body.filter (!isBlank ·) ++ [')'] := by
    have hsolid : name.filter (!isBlank ·) = name :=
      List.filter_eq_self.2 fun c hc => by simp [hname c hc]
    have hopening : isBlank '(' = false := by decide
    have hclosing : isBlank ')' = false := by decide
    rw [← hsplit, flatten_words]
    simp [List.filter_append, hsolid, hopening, hclosing]
  have hmem (other : Text) (h : other ∈ front ++ word :: back) : other ≠ [] :=
    ne_nil_of_mem_words (hsplit ▸ h)
  rw [List.flatten_append, List.flatten_cons] at hflatten
  by_cases hback : back.flatten = []
  · rw [hback, List.append_nil] at hflatten
    obtain ⟨_, rfl, -⟩ := exists_eq_concat (hmem word (by simp)) hflatten
    exact hp _ (by simp)
  · rw [← List.append_assoc] at hflatten
    obtain ⟨rest, -, hrest⟩ := exists_eq_concat hback hflatten
    obtain ⟨first, others, hwords, -⟩ := words_append_eq hopening (body ++ [')'])
    -- the opening parenthesis belongs to the first word, so it is read with it
    have hfirst : ∃ read, front.flatten ++ word = name ++ '(' :: read := by
      rw [hwhole, hwords] at hsplit
      cases front with
      | nil =>
        obtain ⟨rfl, -⟩ := List.cons.inj hsplit
        exact ⟨first, by simp⟩
      | cons head front =>
        obtain ⟨rfl, -⟩ := List.cons.inj hsplit
        exact ⟨first ++ front.flatten ++ word, by simp⟩
    obtain ⟨read, hread⟩ := hfirst
    have hbegins : read <+: body.filter (!isBlank ·) := by
      rw [hread, List.append_assoc, List.cons_append] at hrest
      exact ⟨rest, List.cons.inj (List.append_cancel_left hrest) |>.2⟩
    have hinner := ((isNested_filter_iff body).2 hbody).opened read hbegins
    have hcount : charDepth '(' = 1 := rfl
    rw [hread, depth_append, depth_cons, hflat, hcount] at hdepth
    omega

end SqlSelect.Text
