import SqlSelect.Condition.Membership
import SqlSelect.Query.JoinText
import SqlSelect.Query.KeywordSlices
import SqlSelect.Proofs.Text.ByteSearch

/-!
Keywords that are searched for in the bytes of a text and cut out by their offsets. Main statement:
the search finds the first offset or says that there is none, every slice is cut between characters,
and the slices are the texts that a cut among the characters gives.
-/

set_option autoImplicit false
set_option relaxedAutoImplicit false

namespace SqlSelect

open Text (IsAscii IsBoundary FindsFirst StandsAt)

section Found

variable {pattern text : Text} {answer : Option Nat}

private theorem cut?_of_finds_none (h : IsAscii pattern) (hne : pattern ≠ [])
    (hfinds : FindsFirst pattern text answer) (hanswer : answer = none) :
    Text.cut? pattern text = none :=
  Text.cut?_eq_none_of_not_standsAt h hne (hfinds.eq_none_iff.1 hanswer)

private theorem slices_of_finds_some (h : IsAscii pattern) (hne : pattern ≠ [])
    (hfinds : FindsFirst pattern text answer) {offset : Nat} (hanswer : answer = some offset) :
    ∃ front back, Text.cut? pattern text = some (front, back) ∧
      Text.slice? 0 offset text = some front ∧
      Text.slice? (offset + Text.byteLength pattern) (Text.byteLength text) text = some back := by
  obtain ⟨front, middle, back, rfl, rfl, hmiddle, hcut⟩ :=
    ((hfinds.eq_some_iff offset).1 hanswer).exists_cut h hne
  refine ⟨front, back, hcut, ?_, ?_⟩
  · rw [List.append_assoc, Text.slice?_front]
  · rw [← hmiddle, ← Text.byteLength_append, Text.slice?_back]

end Found

private theorem sliceWord?_eq {word : Text} (h : IsAscii word) (hlength : Text.byteLength word = 2)
    (text : Text) : sliceWord? word text = some (Text.cutWord? word text) := by
  have hascii := Text.isAscii_spaced h
  have hne : ' ' :: word ++ [' '] ≠ [] := List.cons_ne_nil _ _
  have hfinds := Text.findsFirst_findWord? h text
  rw [sliceWord?, Text.cutWord?]
  cases hfound : Text.findWord? word text with
  | none => rw [cut?_of_finds_none hascii hne hfinds hfound]
  | some offset =>
    obtain ⟨front, back, hcut, hfront, hback⟩ := slices_of_finds_some hascii hne hfinds hfound
    have hfour : Text.byteLength (' ' :: word ++ [' ']) = 4 := by
      rw [Text.byteLength_spaced, hlength]
    rw [hfour] at hback
    rw [hcut]
    simp [hfront, hback]

private theorem isAscii_kind (kind : JoinKind) : IsAscii kind.sql := by
  cases kind <;> decide

private theorem kind_ne_nil (kind : JoinKind) : kind.sql ≠ [] := by
  cases kind <;> decide

private theorem findsFirst_kind (kind : JoinKind) (front : Text) :
    FindsFirst kind.sql front (Text.findPattern? kind.sql front) :=
  Text.findsFirst_findPattern? (isAscii_kind kind) (kind_ne_nil kind) front

private theorem sliceKind?_eq (kind : JoinKind) (front : Text) :
    sliceKind? kind front = some ((Text.cut? kind.sql front).map fun (before, after) =>
      (kind, Text.trim (before ++ after))) := by
  have hascii := isAscii_kind kind
  have hne := kind_ne_nil kind
  have hfinds := findsFirst_kind kind front
  rw [sliceKind?]
  cases hfound : Text.findPattern? kind.sql front with
  | none =>
    rw [cut?_of_finds_none hascii hne hfinds hfound]
    rfl
  | some offset =>
    obtain ⟨before, after, hcut, hbefore, hafter⟩ := slices_of_finds_some hascii hne hfinds hfound
    rw [hcut]
    simp [hbefore, hafter]

private theorem sliceJoinKind?_eq (front : Text) :
    sliceJoinKind? front = some (takeJoinKind? front) := by
  rw [sliceJoinKind?, sliceKind?_eq, sliceKind?_eq, takeJoinKind?]
  cases Text.cut? JoinKind.leftOuter.sql front <;> rfl

private theorem lastFour?_eq_some_iff {text tail : Text} : lastFour? text = some tail ↔
    ∃ body, text = body ++ tail ∧ Text.byteLength tail = 4 := by
  rw [lastFour?]
  split
  · next hshort =>
    constructor
    · rintro ⟨⟩
    · rintro ⟨body, rfl, hfour⟩
      rw [Text.byteLength_append] at hshort
      omega
  · next hlong =>
    rw [Text.slice?_eq_some_iff]
    constructor
    · rintro ⟨body, back, rfl, hstart, hstop⟩
      have hback : Text.byteLength back = 0 := by
        rw [Text.byteLength_append (body ++ tail)] at hstop
        omega
      rw [Text.eq_nil_of_byteLength_eq_zero hback, List.append_nil] at hstart hlong ⊢
      rw [Text.byteLength_append] at hstart hlong
      exact ⟨body, rfl, by omega⟩
    · rintro ⟨body, rfl, hfour⟩
      refine ⟨body, [], (List.append_nil _).symm, ?_, rfl⟩
      rw [Text.byteLength_append]
      omega

private theorem isAscii_not : IsAscii " not".toList := by decide

private theorem sliceNegation?_eq (text : Text) :
    sliceNegation? text = some (takeNegation text) := by
  simp only [sliceNegation?, takeNegation]
  generalize Text.trim text = front
  have hcut (body tail : Text) (hfour : tail.length = 4) :
      (body ++ tail).length - 4 = body.length := by
    rw [List.length_append, hfour, Nat.add_sub_cancel]
  by_cases hnegated : Text.sameLetters " not".toList (front.drop (front.length - 4)) = true
  · have hwhole := List.take_append_drop (front.length - 4) front
    generalize front.take (front.length - 4) = body at hwhole
    generalize front.drop (front.length - 4) = tail at hwhole hnegated
    subst hwhole
    have hfour := isAscii_not.byteLength_eq_of_sameLetters hnegated
    have hbytes := (Text.sameLetterBytes_iff isAscii_not).2 hnegated
    have hlast : lastFour? (body ++ tail) = some tail :=
      lastFour?_eq_some_iff.2 ⟨body, rfl, hfour⟩
    have hbody : Text.slice? 0 (Text.byteLength (body ++ tail) - 4) (body ++ tail) = some body := by
      rw [Text.byteLength_append, hfour]
      exact Text.slice?_front body tail
    rw [if_pos hnegated, hlast]
    simp only [hbytes, if_true, hbody, Option.map_some]
  · rw [if_neg hnegated]
    cases hlast : lastFour? front with
    | none => rfl
    | some tail =>
      obtain ⟨body, rfl, -⟩ := lastFour?_eq_some_iff.1 hlast
      have hother : ¬Text.sameLetterBytes (Text.bytes tail) (Text.bytes " not".toList) = true := by
        rw [Text.sameLetterBytes_iff isAscii_not]
        intro hsame
        rw [hcut body tail (Text.length_eq_of_sameLetters hsame).symm, List.drop_left] at hnegated
        exact hnegated hsame
      exact if_neg hother

private theorem isBoundary_of_negated {text : Text} (h : (takeNegation text).2 = true) :
    4 ≤ Text.byteLength (Text.trim text) ∧
      IsBoundary (Text.trim text) (Text.byteLength (Text.trim text) - 4) := by
  simp only [takeNegation] at h
  generalize Text.trim text = front at h ⊢
  split at h
  · next hnegated =>
    have hwhole := List.take_append_drop (front.length - 4) front
    have hfour : Text.byteLength (front.drop (front.length - 4)) = 4 :=
      isAscii_not.byteLength_eq_of_sameLetters hnegated
    have hlength := congrArg Text.byteLength hwhole
    rw [Text.byteLength_append, hfour] at hlength
    exact ⟨by omega, Text.isBoundary_iff.2 ⟨_, _, hwhole.symm, by omega⟩⟩
  · cases h

/-- Keywords are searched for safely. For each of the words that are looked for between spaces, and
for each kind of join, the search in the bytes finds the first offset where the keyword stands in
any case, or nothing if it stands nowhere; that offset and the one behind the keyword fall between
characters. No slice that is cut out cuts a character in two, and the slices are the texts that a
cut among the characters gives; so it is with the four bytes of a negation. -/
theorem keyword_search_is_safe (text : Text) :
    (∀ word ∈ ["as".toList, "in".toList, "on".toList],
      Text.byteLength (' ' :: word ++ [' ']) = 4 ∧
      FindsFirst (' ' :: word ++ [' ']) text (Text.findWord? word text) ∧
      sliceWord? word text = some (Text.cutWord? word text)) ∧
    (∀ kind : JoinKind, FindsFirst kind.sql text (Text.findPattern? kind.sql text)) ∧
    sliceJoinKind? text = some (takeJoinKind? text) ∧
    sliceNegation? text = some (takeNegation text) ∧
    ((takeNegation text).2 = true → 4 ≤ Text.byteLength (Text.trim text) ∧
      IsBoundary (Text.trim text) (Text.byteLength (Text.trim text) - 4)) := by
  refine ⟨fun word hword => ?_, fun kind => findsFirst_kind kind text, sliceJoinKind?_eq text,
    sliceNegation?_eq text, isBoundary_of_negated⟩
  have hshape : IsAscii word ∧ Text.byteLength word = 2 := by
    simp only [List.mem_cons, List.not_mem_nil, or_false] at hword
    rcases hword with rfl | rfl | rfl <;> decide
  obtain ⟨hascii, hlength⟩ := hshape
  refine ⟨?_, Text.findsFirst_findWord? hascii text, sliceWord?_eq hascii hlength text⟩
  rw [Text.byteLength_spaced, hlength]

/-- A word between characters of two and of four bytes, and a negation behind them. -/
theorem keyword_search_is_safe_of_wide_characters :
    let text := "é As 😀 nOt".toList
    "as".toList ∈ ["as".toList, "in".toList, "on".toList] ∧ (takeNegation text).2 = true ∧
      Text.findWord? "as".toList text = some 2 ∧ IsBoundary text 2 ∧ IsBoundary text (2 + 4) ∧
      ¬IsBoundary text 1 ∧ sliceWord? "as".toList text = some (Text.cutWord? "as".toList text) ∧
      IsBoundary (Text.trim text) (Text.byteLength (Text.trim text) - 4) := by
  intro text
  have hword : "as".toList ∈ ["as".toList, "in".toList, "on".toList] := List.mem_cons_self
  have hnegated : (takeNegation text).2 = true := by decide
  have hfound : Text.findWord? "as".toList text = some 2 := by decide
  have hsafe := keyword_search_is_safe text
  obtain ⟨hfour, hfinds, hslices⟩ := hsafe.1 _ hword
  have hends := hfinds.ends 2 hfound
  rw [hfour] at hends
  exact ⟨hword, hnegated, hfound, hfinds.starts 2 hfound, hends, by decide, hslices,
    (hsafe.2.2.2.2 hnegated).2⟩

end SqlSelect
