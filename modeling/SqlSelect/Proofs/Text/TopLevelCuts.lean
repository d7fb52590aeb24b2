import SqlSelect.Query.Parser
import SqlSelect.Text.Slices
import SqlSelect.Proofs.Text.Boundaries
import SqlSelect.Proofs.Text.Joining
import SqlSelect.Proofs.Text.Pairs

/-!
Texts cut at a separator outside parentheses. Main statement: the pieces are slices of the text and
make it up again, they are cut exactly where as many parentheses were closed as opened, and none of
them is cut once more; so lists that close what they open are read one after the other.
-/

set_option autoImplicit false
set_option relaxedAutoImplicit false

namespace SqlSelect.Text

/-- The places of the separators between pieces that stand one after the other. -/
def cutPlaces : List Text → List Nat
  | [] => []
  | [_] => []
  | piece :: next :: rest =>
    piece.length :: (cutPlaces (next :: rest)).map (piece.length + 1 + ·)

/-! ## Counting -/

private theorem depth_eq_count_sub (text : Text) :
    depth text = text.count '(' - text.count ')' := by
  induction text with
  | nil => rfl
  | cons c rest ih =>
    rw [depth_cons, ih, charDepth, List.count_cons, List.count_cons]
    by_cases hopening : c = '('
    · subst hopening
      simp
      omega
    · by_cases hclosing : c = ')'
      · subst hclosing
        simp
        omega
      · simp [hopening, hclosing]

private theorem depth_eq_zero_iff {text : Text} :
    depth text = 0 ↔ text.count '(' = text.count ')' := by
  rw [depth_eq_count_sub]
  omega

private theorem charDepth_eq_zero {c : Char} (hopening : c ≠ '(') (hclosing : c ≠ ')') :
    charDepth c = 0 := by
  rw [charDepth, if_neg hopening, if_neg hclosing]

/-! ## Pieces -/

section Pieces

variable {separator : Char} {start : Int} {text : Text}

private theorem exists_splitFrom_eq_cons (separator : Char) (start : Int) (text : Text) :
    ∃ first others, splitFrom separator start text = first :: others :=
  List.exists_cons_of_ne_nil (splitFrom_ne_nil start text)

private theorem splitFrom_of_cut {c : Char} (h : c = separator ∧ start = 0) (rest : Text) :
    splitFrom separator start (c :: rest) = [] :: splitFrom separator start rest := if_pos h

private theorem splitFrom_of_not_cut {c : Char} (h : ¬(c = separator ∧ start = 0)) (rest : Text) :
    splitFrom separator start (c :: rest) =
      (splitFrom separator (start + charDepth c) rest).modifyHead (c :: ·) := if_neg h

private theorem joinWith_splitFrom (start : Int) (text : Text) :
    joinWith [separator] (splitFrom separator start text) = text := by
  induction text generalizing start with
  | nil => rfl
  | cons c rest ih =>
    by_cases hcut : c = separator ∧ start = 0
    · rw [splitFrom_of_cut hcut, joinWith_cons_of_ne_nil _ _ (splitFrom_ne_nil _ _), ih, hcut.1]
      rfl
    · obtain ⟨first, others, hsplit⟩ := exists_splitFrom_eq_cons separator (start + charDepth c) rest
      have hrest := ih (start + charDepth c)
      rw [splitFrom_of_not_cut hcut, hsplit, List.modifyHead_cons, joinWith_eq_flatMap,
        List.cons_append, ← joinWith_eq_flatMap, ← hsplit, hrest]

private theorem isUncut_of_splitFrom_eq_cons {first : Text} {others : List Text}
    (h : splitFrom separator start text = first :: others) :
    IsUncut separator start first ∧ ∀ piece ∈ others, IsUncut separator 0 piece := by
  -- the depth carries over to the first piece only
  induction text generalizing start first others with
  | nil =>
    obtain ⟨rfl, rfl⟩ := List.cons.inj h
    exact ⟨rfl, by simp⟩
  | cons c rest ih =>
    by_cases hcut : c = separator ∧ start = 0
    · rw [splitFrom_of_cut hcut] at h
      obtain ⟨rfl, hrest⟩ := List.cons.inj h
      obtain ⟨second, others, hsplit⟩ := exists_splitFrom_eq_cons separator start rest
      obtain ⟨hsecond, hothers⟩ := ih hsplit
      rw [← hrest, hsplit]
      exact ⟨rfl, List.forall_mem_cons.2 ⟨hcut.2 ▸ hsecond, hothers⟩⟩
    · obtain ⟨second, others, hsplit⟩ := exists_splitFrom_eq_cons separator (start + charDepth c) rest
      rw [splitFrom_of_not_cut hcut, hsplit, List.modifyHead_cons] at h
      obtain ⟨rfl, rfl⟩ := List.cons.inj h
      obtain ⟨hsecond, hothers⟩ := ih hsplit
      refine ⟨?_, hothers⟩
      rw [IsUncut, splitFrom_of_not_cut hcut, hsecond, List.modifyHead_cons]

private theorem splitTopLevel_of_mem {piece : Text} (h : piece ∈ splitTopLevel separator text) :
    splitTopLevel separator piece = [piece] := by
  obtain ⟨first, others, hsplit⟩ := exists_splitFrom_eq_cons separator 0 text
  obtain ⟨hfirst, hothers⟩ := isUncut_of_splitFrom_eq_cons hsplit
  rw [splitTopLevel, hsplit] at h
  exact List.forall_mem_cons.2 ⟨hfirst, hothers⟩ piece h

private theorem splitFrom_append_separator (hflat : charDepth separator = 0) {front : Text}
    (h : start + depth front = 0) (back : Text) :
    splitFrom separator start (front ++ separator :: back) =
      splitFrom separator start front ++ splitFrom separator 0 back := by
  induction front generalizing start with
  | nil =>
    have hstart : start = 0 := by simpa using h
    rw [List.nil_append, splitFrom_of_cut ⟨rfl, hstart⟩, hstart]
    rfl
  | cons c front ih =>
    rw [depth_cons] at h
    rw [List.cons_append]
    by_cases hcut : c = separator ∧ start = 0
    · have hrest : start + depth front = 0 := by
        rw [hcut.1, hflat] at h
        omega
      rw [splitFrom_of_cut hcut, splitFrom_of_cut hcut, ih hrest, List.cons_append]
    · obtain ⟨first, others, hsplit⟩ :=
        exists_splitFrom_eq_cons separator (start + charDepth c) front
      rw [splitFrom_of_not_cut hcut, splitFrom_of_not_cut hcut, ih (by omega), hsplit,
        List.cons_append, List.modifyHead_cons, List.modifyHead_cons, List.cons_append]

end Pieces

/-! ## Places -/

section Places

private theorem cutPlaces_cons (piece : Text) {rest : List Text} (h : rest ≠ []) :
    cutPlaces (piece :: rest) = piece.length :: (cutPlaces rest).map (piece.length + 1 + ·) := by
  obtain ⟨next, others, rfl⟩ := List.exists_cons_of_ne_nil h
  rfl

private theorem cutPlaces_cons_cons (c : Char) (first : Text) (others : List Text) :
    cutPlaces ((c :: first) :: others) = (cutPlaces (first :: others)).map (1 + ·) := by
  cases others with
  | nil => rfl
  | cons next rest =>
    have hshift : (first.length + 1 + 1 + ·) = (1 + ·) ∘ (first.length + 1 + ·) := by
      funext place
      simp only [Function.comp_apply]
      omega
    rw [cutPlaces, cutPlaces, List.map_cons, List.map_map, List.length_cons, hshift,
      Nat.add_comm 1]

private theorem succ_mem_map_one_add {places : List Nat} {place : Nat} :
    place + 1 ∈ places.map (1 + ·) ↔ place ∈ places := by
  simp only [List.mem_map, Nat.add_comm 1, Nat.add_right_cancel_iff, exists_eq_right]

private theorem zero_notMem_map_one_add (places : List Nat) : 0 ∉ places.map (1 + ·) := by
  simp only [List.mem_map, not_exists, not_and]
  omega

private theorem mem_cutPlaces_splitFrom {separator : Char} (hflat : charDepth separator = 0)
    {start : Int}
    {text : Text} {place : Nat} :
    place ∈ cutPlaces (splitFrom separator start text) ↔
      text[place]? = some separator ∧ start + depth (text.take place) = 0 := by
  induction text generalizing start place with
  | nil => simp [splitFrom, cutPlaces]
  | cons c rest ih =>
    by_cases hcut : c = separator ∧ start = 0
    · have hfirst : cutPlaces (splitFrom separator start (c :: rest)) =
          0 :: (cutPlaces (splitFrom separator start rest)).map (1 + ·) := by
        rw [splitFrom_of_cut hcut, cutPlaces_cons _ (splitFrom_ne_nil _ _)]
        rfl
      rw [hfirst, List.mem_cons]
      cases place with
      | zero => simp [hcut.1, hcut.2]
      | succ place =>
        rw [succ_mem_map_one_add, ih, List.getElem?_cons_succ, List.take_succ_cons, depth_cons,
          hcut.1, hflat, Int.zero_add]
        simp
    · have hlater : cutPlaces (splitFrom separator start (c :: rest)) =
          (cutPlaces (splitFrom separator (start + charDepth c) rest)).map (1 + ·) := by
        obtain ⟨first, others, hsplit⟩ :=
          exists_splitFrom_eq_cons separator (start + charDepth c) rest
        rw [splitFrom_of_not_cut hcut, hsplit, List.modifyHead_cons, cutPlaces_cons_cons]
      rw [hlater]
      cases place with
      | zero => simpa [zero_notMem_map_one_add] using hcut
      | succ place =>
        rw [succ_mem_map_one_add, ih, List.getElem?_cons_succ, List.take_succ_cons, depth_cons,
          Int.add_assoc]

end Places

/-! ## Slices -/

/-- The scan has cut off what is done and passed over what belongs to the next piece. -/
private theorem slicesFrom?_eq {separator : Char}
    (hopening : separator ≠ '(') (hclosing : separator ≠ ')')
    {text done passed rest : Text} (h : text = done ++ passed ++ rest) (start : Int) :
    slicesFrom? separator text start (byteLength done) (byteLength (done ++ passed)) rest =
      some ((splitFrom separator start rest).modifyHead (passed ++ ·)) := by
  induction rest generalizing start done passed with
  | nil =>
    rw [slicesFrom?, h, List.append_nil, slice?_back, splitFrom, List.modifyHead_cons,
      List.append_nil]
    rfl
  | cons c rest ih =>
    have hnext : byteLength (done ++ passed) + c.utf8Size =
        byteLength (done ++ (passed ++ [c])) := by
      simp [Nat.add_assoc]
    have hpassed : text = done ++ (passed ++ [c]) ++ rest := by simp [h]
    have hstays (hcut : ¬(c = separator ∧ start = 0)) :
        some ((splitFrom separator (start + charDepth c) rest).modifyHead (passed ++ [c] ++ ·)) =
          some ((splitFrom separator start (c :: rest)).modifyHead (passed ++ ·)) := by
      rw [splitFrom_of_not_cut hcut, List.modifyHead_modifyHead]
      simp [Function.comp_def]
    rw [slicesFrom?, hnext]
    split
    · next hopens =>
      subst hopens
      exact (ih hpassed (start + 1)).trans (hstays fun hcut => hopening hcut.1.symm)
    · split
      · next hcloses =>
        subst hcloses
        exact (ih hpassed (start - 1)).trans (hstays fun hcut => hclosing hcut.1.symm)
      · next hopens hcloses =>
        have hflat := charDepth_eq_zero hopens hcloses
        split
        · next hcut =>
          have hdone : text = done ++ (passed ++ [c]) ++ [] ++ rest := by simp [h]
          have hrest := ih hdone start
          rw [List.append_nil] at hrest
          have hpiece : slice? (byteLength done) (byteLength (done ++ passed)) text =
              some passed := by
            rw [h, byteLength_append]
            exact slice?_append done passed (c :: rest)
          rw [hpiece, hrest, splitFrom_of_cut hcut, List.modifyHead_cons, List.append_nil]
          obtain ⟨first, others, hsplit⟩ := exists_splitFrom_eq_cons separator start rest
          rw [hsplit]
          rfl
        · next hcut =>
          rw [ih hpassed start, ← hstays hcut, hflat, Int.add_zero]

private theorem sliceTopLevel?_eq {separator : Char} (hopening : separator ≠ '(')
    (hclosing : separator ≠ ')') (text : Text) :
    sliceTopLevel? separator text = some (splitTopLevel separator text) := by
  have hstart : text = [] ++ [] ++ text := rfl
  have hslices := slicesFrom?_eq hopening hclosing hstart 0
  obtain ⟨first, others, hsplit⟩ := exists_splitFrom_eq_cons separator 0 text
  rw [hsplit] at hslices
  rw [splitTopLevel, hsplit]
  exact hslices

private theorem items_append_comma {front : Text} (h : depth front = 0) (back : Text) :
    items (front ++ ',' :: back) = items front ++ items back := by
  have hsplit : splitTopLevel ',' (front ++ ',' :: back) =
      splitTopLevel ',' front ++ splitTopLevel ',' back :=
    splitFrom_append_separator rfl (by rwa [Int.zero_add]) back
  rw [items, hsplit, List.map_append, List.filter_append, items, items]

/-- A text is cut exactly at the separators in front of which as many parentheses are closed as
opened: its pieces are slices that make it up again, and none of them is cut once more. A list that
closes what it opens is read apart from what follows its comma. -/
theorem splitTopLevel_is_exact {separator : Char} (hopening : separator ≠ '(')
    (hclosing : separator ≠ ')') (text : Text) :
    sliceTopLevel? separator text = some (splitTopLevel separator text) ∧
    joinWith [separator] (splitTopLevel separator text) = text ∧
    (∀ place, place ∈ cutPlaces (splitTopLevel separator text) ↔
      text[place]? = some separator ∧
        (text.take place).count '(' = (text.take place).count ')') ∧
    (∀ piece ∈ splitTopLevel separator text, splitTopLevel separator piece = [piece]) ∧
    ∀ front, front.count '(' = front.count ')' →
      splitTopLevel separator (front ++ separator :: text) =
          splitTopLevel separator front ++ splitTopLevel separator text ∧
        Field.parseList (front ++ ',' :: text) = Field.parseList front ++ Field.parseList text ∧
        SortKey.parseList (front ++ ',' :: text) =
          SortKey.parseList front ++ SortKey.parseList text ∧
        TableRef.parseList (front ++ ',' :: text) =
          TableRef.parseList front ++ TableRef.parseList text := by
  have hflat := charDepth_eq_zero hopening hclosing
  refine ⟨sliceTopLevel?_eq hopening hclosing text, joinWith_splitFrom 0 text, fun place => ?_,
    fun _ => splitTopLevel_of_mem, fun front hfront => ?_⟩
  · rw [splitTopLevel, mem_cutPlaces_splitFrom hflat, Int.zero_add, depth_eq_zero_iff]
  · have hdepth : depth front = 0 := depth_eq_zero_iff.2 hfront
    have hitems := items_append_comma hdepth text
    refine ⟨splitFrom_append_separator hflat (by rwa [Int.zero_add]) text, ?_, ?_, ?_⟩
    · exact (congrArg (List.map _) hitems).trans List.map_append
    · exact (congrArg (List.map _) hitems).trans List.map_append
    · exact (congrArg (List.map _) hitems).trans List.map_append

/-- A text that closes a parenthesis before it opens one, behind a list with a pair of them. -/
theorem splitTopLevel_is_exact_of_early_closing :
    let text := "é)=1,(=2".toList
    let piece := "é)=1,(".toList
    let front := " f(a, b), ü".toList
    '=' ≠ '(' ∧ '=' ≠ ')' ∧ piece ∈ splitTopLevel '=' text ∧ front.count '(' = front.count ')' ∧
      6 ∈ cutPlaces (splitTopLevel '=' text) ∧ 2 ∉ cutPlaces (splitTopLevel '=' text) ∧
      splitTopLevel '=' piece = [piece] ∧
      Field.parseList (front ++ ',' :: text) = Field.parseList front ++ Field.parseList text := by
  intro text piece front
  have hopening : '=' ≠ '(' := by decide
  have hclosing : '=' ≠ ')' := by decide
  have hpiece : piece ∈ splitTopLevel '=' text := by decide
  have hfront : front.count '(' = front.count ')' := by decide
  obtain ⟨-, -, hplaces, hpieces, hlists⟩ := splitTopLevel_is_exact hopening hclosing text
  exact ⟨hopening, hclosing, hpiece, hfront, (hplaces 6).2 (by decide),
    mt (hplaces 2).1 (by decide), hpieces piece hpiece, (hlists front hfront).2.1⟩

end SqlSelect.Text
