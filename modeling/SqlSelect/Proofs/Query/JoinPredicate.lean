import SqlSelect.Proofs.Query.JoinText

/-!
What is read as a join. Main statement: a text is one exactly if it has an `ON`, a kind in front of
it and behind it one equality outside parentheses; what is missing first is the failure.
-/

set_option autoImplicit false
set_option relaxedAutoImplicit false

namespace SqlSelect

/-- The words of an equality: one `=` outside parentheses, with words on both sides. -/
structure IsEquality (pieces left right : List Text) : Prop where
  whole : pieces = left ++ ['='] :: right
  outside : Text.depth left.flatten = 0
  alone : ∀ front back, pieces = front ++ ['='] :: back →
    Text.depth front.flatten = 0 → front = left
  left_ne : left ≠ []
  right_ne : right ≠ []

/-- The kind of a join that is named in the text in front of its `ON`, and that text without the
name. A left outer join is looked for first. -/
inductive NamesKind (front : Text) : JoinKind → Text → Prop
  | leftOuter {before after : Text}
    (h : Text.IsFirstCut JoinKind.leftOuter.sql front before after) :
    NamesKind front .leftOuter (before ++ after)
  | inner {before after : Text} (hother : ¬Text.Mentions JoinKind.leftOuter.sql front)
    (h : Text.IsFirstCut JoinKind.inner.sql front before after) :
    NamesKind front .inner (before ++ after)

def NamesAnyKind (front : Text) : Prop :=
  Text.Mentions JoinKind.leftOuter.sql front ∨ Text.Mentions JoinKind.inner.sql front

/-- Whether the first ` ON ` of a text stands between two texts. The blanks at the ends of the whole
text do not count. -/
def IsCutAtOn (text front back : Text) : Prop :=
  Text.IsFirstCut " on ".toList (Text.trim text) front back

/-- What a text is read as: a join, or the failure for the first of its parts that is missing. -/
inductive Join.Reads (text : Text) : Except SqlError Join → Prop
  | uncut (hcut : ¬Text.Mentions " on ".toList (Text.trim text)) :
    Reads text (.error (.invalidJoinPredicate (Text.trim text)))
  | unnamed {front back : Text} (hcut : IsCutAtOn text front back)
    (hkind : ¬NamesAnyKind front) :
    Reads text (.error (.unknownJoinKind (Text.trim front)))
  | unequal {front back : Text} (hcut : IsCutAtOn text front back) (hkind : NamesAnyKind front)
    (hsides : ¬∃ left right, IsEquality (Text.words back) left right) :
    Reads text (.error (.invalidJoinPredicate (Text.trim back)))
  | join {front back rest : Text} {kind : JoinKind} {left right : List Text}
    (hcut : IsCutAtOn text front back) (hkind : NamesKind front kind rest)
    (hsides : IsEquality (Text.words back) left right) :
    Reads text (.ok {
      kind
      table := TableRef.parse rest
      localField := Field.parse (Text.unwords left)
      foreignField := Field.parse (Text.unwords right) })

/-! ## The sides of the equality -/

private theorem depth_equals : Text.depth ['='] = 0 := rfl

private theorem splitEquals_eq_pair_iff {pieces left right : List Text} :
    splitEquals 0 pieces = [left, right] ∧ left ≠ [] ∧ right ≠ [] ↔
      IsEquality pieces left right := by
  rw [splitEquals_eq_splitWords, Text.splitWords_eq_pair_iff]
  constructor
  · rintro ⟨⟨separator, hequals, hwhole, hdepth, hleft, hright⟩, hleftNe, hrightNe⟩
    obtain rfl : separator = ['='] := beq_iff_eq.1 hequals
    rw [depth_equals] at hdepth
    refine ⟨hwhole, by omega, fun front back hsplit hfront => ?_, hleftNe, hrightNe⟩
    -- any other `=` is one of the words of a side, where no `=` is outside parentheses
    rcases List.append_eq_append_iff.1 (hwhole.symm.trans hsplit) with
      ⟨between, rfl, hbehind⟩ | ⟨between, rfl, hbehind⟩
    · cases between with
      | nil => exact List.append_nil left
      | cons word between =>
        obtain ⟨rfl, hinner⟩ := List.cons.inj hbehind
        rw [List.flatten_append, List.flatten_cons, Text.depth_append, Text.depth_append,
          depth_equals] at hfront
        have hother := Text.freeOf_iff.1 hright between ['='] back hinner
          (by rw [Text.depth_append, depth_equals]; omega)
        exact absurd hother (by decide)
    · cases between with
      | nil => exact (List.append_nil front).symm
      | cons word between =>
        obtain ⟨rfl, -⟩ := List.cons.inj hbehind
        have hother := Text.freeOf_iff.1 hleft front ['='] between rfl
          (by rw [Text.depth_append, depth_equals]; omega)
        exact absurd hother (by decide)
  · rintro ⟨hwhole, hdepth, halone, hleftNe, hrightNe⟩
    refine ⟨⟨['='], by decide, hwhole, by rw [depth_equals]; omega, ?_, ?_⟩, hleftNe, hrightNe⟩
    · refine Text.freeOf_iff.2 fun front word back hsplit hsum => ?_
      rw [beq_eq_false_iff_ne]
      rintro rfl
      rw [Text.depth_append, depth_equals] at hsum
      have hsame := halone front (back ++ ['='] :: right)
        (by rw [hwhole, hsplit, List.append_assoc]; rfl) (by omega)
      simp [hsplit] at hsame
    · refine Text.freeOf_iff.2 fun front word back hsplit hsum => ?_
      rw [beq_eq_false_iff_ne]
      rintro rfl
      rw [Text.depth_append, depth_equals] at hsum
      have hsame := halone (left ++ ['='] :: front) back
        (by rw [hwhole, hsplit, List.append_assoc]; rfl)
        (by rw [List.flatten_append, List.flatten_cons, Text.depth_append, Text.depth_append,
          depth_equals]; omega)
      simp at hsame

/-! ## The kind -/

section Kind

variable {front rest : Text} {kind : JoinKind}

private theorem exists_namesKind (h : NamesAnyKind front) :
    ∃ kind rest, NamesKind front kind rest := by
  by_cases houter : Text.Mentions JoinKind.leftOuter.sql front
  · obtain ⟨before, after, hcut⟩ := Text.exists_isFirstCut houter
    exact ⟨.leftOuter, before ++ after, .leftOuter hcut⟩
  · obtain ⟨before, after, hcut⟩ := Text.exists_isFirstCut (h.resolve_left houter)
    exact ⟨.inner, before ++ after, .inner houter hcut⟩

private theorem NamesKind.namesAnyKind (h : NamesKind front kind rest) : NamesAnyKind front := by
  cases h with
  | leftOuter h => exact .inl h.mentions
  | inner _ h => exact .inr h.mentions

private theorem takeJoinKind?_of_names (h : NamesKind front kind rest) :
    takeJoinKind? front = some (kind, Text.trim rest) := by
  cases h with
  | leftOuter h => rw [takeJoinKind?, Text.cut?_eq_some_iff.2 h]
  | inner hother h =>
    rw [takeJoinKind?, Text.cut?_eq_none_iff.2 hother, Text.cut?_eq_some_iff.2 h]
    rfl

private theorem takeJoinKind?_eq_none (h : ¬NamesAnyKind front) : takeJoinKind? front = none := by
  obtain ⟨houter, hinner⟩ := not_or.1 h
  rw [takeJoinKind?, Text.cut?_eq_none_iff.2 houter, Text.cut?_eq_none_iff.2 hinner]
  rfl

end Kind

/-! ## The whole join -/

section Reading

variable {text front back : Text}

private theorem cutWord?_of_isCutAtOn (h : IsCutAtOn text front back) :
    Text.cutWord? "on".toList (Text.trim text) = some (front, back) := Text.cut?_eq_some_iff.2 h

private theorem JoinText.read_of_uncut (h : ¬Text.Mentions " on ".toList (Text.trim text)) :
    JoinText.read text = .error (.invalidJoinPredicate (Text.trim text)) := by
  have hcut : Text.cutWord? "on".toList (Text.trim text) = none := Text.cut?_eq_none_iff.2 h
  simp only [JoinText.read, hcut]

private theorem JoinText.read_of_unnamed (hcut : IsCutAtOn text front back)
    (h : ¬NamesAnyKind front) :
    JoinText.read text = .error (.unknownJoinKind (Text.trim front)) := by
  simp only [JoinText.read, cutWord?_of_isCutAtOn hcut, takeJoinKind?_eq_none h]

private theorem JoinText.read_of_unequal (hcut : IsCutAtOn text front back)
    (hkind : NamesAnyKind front)
    (h : ¬∃ left right, IsEquality (Text.words back) left right) :
    JoinText.read text = .error (.invalidJoinPredicate (Text.trim back)) := by
  obtain ⟨kind, rest, hnamed⟩ := exists_namesKind hkind
  simp only [JoinText.read, cutWord?_of_isCutAtOn hcut, takeJoinKind?_of_names hnamed]
  split
  · next left lefts right rights hsides =>
    have hequality := splitEquals_eq_pair_iff.1
      ⟨hsides, List.cons_ne_nil left lefts, List.cons_ne_nil right rights⟩
    exact absurd ⟨_, _, hequality⟩ h
  · rfl

private theorem JoinText.read_of_equality {rest : Text} {kind : JoinKind} {left right : List Text}
    (hcut : IsCutAtOn text front back) (hkind : NamesKind front kind rest)
    (h : IsEquality (Text.words back) left right) :
    JoinText.read text =
      .ok ⟨kind, Text.trim rest, Text.unwords left, Text.unwords right⟩ := by
  have hsides := (splitEquals_eq_pair_iff.2 h).1
  exact JoinText.read_eq_ok_iff.2 ⟨front, back, left, right, cutWord?_of_isCutAtOn hcut,
    takeJoinKind?_of_names hkind, hsides, h.left_ne, h.right_ne, rfl, rfl⟩

private theorem TableRef.parse_trim (text : Text) :
    TableRef.parse (Text.trim text) = TableRef.parse text := by
  rw [TableRef.parse, TableRef.parse, Text.words_trim]

private theorem Join.Reads.parse_eq {outcome : Except SqlError Join} (h : Join.Reads text outcome) :
    Join.parse text = outcome := by
  cases h with
  | uncut hcut => exact Join.parseWith_of_error (JoinText.read_of_uncut hcut)
  | unnamed hcut hkind => exact Join.parseWith_of_error (JoinText.read_of_unnamed hcut hkind)
  | unequal hcut hkind hsides =>
    exact Join.parseWith_of_error (JoinText.read_of_unequal hcut hkind hsides)
  | join hcut hkind hsides =>
    rw [Join.parse, Join.parseWith_of_ok (JoinText.read_of_equality hcut hkind hsides),
      Join.ofTextWith, TableRef.parse_trim]
    rfl

private theorem Join.exists_reads (text : Text) : ∃ outcome, Join.Reads text outcome := by
  by_cases hon : Text.Mentions " on ".toList (Text.trim text)
  · obtain ⟨front, back, hcut⟩ := Text.exists_isFirstCut hon
    by_cases hkind : NamesAnyKind front
    · by_cases hsides : ∃ left right, IsEquality (Text.words back) left right
      · obtain ⟨kind, rest, hnamed⟩ := exists_namesKind hkind
        obtain ⟨left, right, hequality⟩ := hsides
        exact ⟨_, .join hcut hnamed hequality⟩
      · exact ⟨_, .unequal hcut hkind hsides⟩
    · exact ⟨_, .unnamed hcut hkind⟩
  · exact ⟨_, .uncut hon⟩

/-- A text is read as a join exactly if it has an ` ON `, a kind in front of it and one equality
behind it. The join is made of what stands around the kind and of the two sides; otherwise the
failure is that of the first part that is missing, with the text where it was looked for. -/
theorem Join.parse_reads_one_equality (text : Text) :
    ((∃ join, Join.parse text = .ok join) ↔ ∃ front back, IsCutAtOn text front back ∧
      NamesAnyKind front ∧ ∃ left right, IsEquality (Text.words back) left right) ∧
    ∀ outcome, Join.parse text = outcome ↔ Join.Reads text outcome := by
  have hreads (outcome : Except SqlError Join) :
      Join.parse text = outcome ↔ Join.Reads text outcome := by
    constructor
    · rintro rfl
      obtain ⟨outcome, hread⟩ := Join.exists_reads text
      rwa [hread.parse_eq]
    · exact Join.Reads.parse_eq
  refine ⟨?_, hreads⟩
  constructor
  · rintro ⟨join, hjoin⟩
    cases (hreads _).1 hjoin with
    | join hcut hkind hsides => exact ⟨_, _, hcut, hkind.namesAnyKind, _, _, hsides⟩
  · rintro ⟨front, back, hcut, hkind, left, right, hsides⟩
    obtain ⟨kind, rest, hnamed⟩ := exists_namesKind hkind
    exact ⟨_, (Join.Reads.join hcut hnamed hsides).parse_eq⟩

end Reading

/-- An `=` in parentheses does not count, and neither does one that is a part of a word. -/
example : (JoinText.read "inner join t on f ( a = b ) = c=d".toList).toOption =
    some ⟨.inner, "t".toList, "f ( a = b )".toList, "c=d".toList⟩ := by
  decide

end SqlSelect
