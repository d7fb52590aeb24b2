import SqlSelect.Text.Quoted
import SqlSelect.Text.Slices
import SqlSelect.Proofs.Text.Boundaries

/-!
Literals, from the slices that are written to the value that is read. Main statement: writing never
cuts a character in two, and reading takes back exactly what was written, unless one more quote
follows.
-/

set_option autoImplicit false
set_option relaxedAutoImplicit false

namespace SqlSelect.Text

/-! ## Writing -/

private theorem filledSlice?_append (front middle back : Text) :
    ∃ pieces, filledSlice? (byteLength front) (byteLength (front ++ middle))
        (front ++ middle ++ back) = some pieces ∧
      pieces.flatten = middle ∧ [] ∉ pieces := by
  rw [filledSlice?]
  split
  · next hsame =>
    rw [byteLength_append, Nat.add_eq_left] at hsame
    rw [eq_nil_of_byteLength_eq_zero hsame]
    exact ⟨[], rfl, rfl, List.not_mem_nil⟩
  · next hdiffers =>
    have hfilled : middle ≠ [] := by
      rintro rfl
      exact hdiffers (by rw [List.append_nil])
    rw [byteLength_append, slice?_append]
    exact ⟨[middle], rfl, List.flatten_singleton, by simpa using hfilled.symm⟩

/-- What is copied, what is only passed over and what is left make up the value. The pieces written
from there on are those of what is passed over and of what is left. -/
private theorem exists_doubledPieces? {value copied passed rest : Text}
    (h : value = copied ++ passed ++ rest) :
    ∃ pieces, doubledPieces? value (byteLength copied) (byteLength (copied ++ passed)) rest =
        some pieces ∧
      pieces.flatten = passed ++ doubleQuotes rest ∧ [] ∉ pieces := by
  induction rest generalizing copied passed with
  | nil =>
    rw [doubledPieces?, h, List.append_nil]
    split
    · next hmore =>
      have hfilled : passed ≠ [] := by
        rintro rfl
        simp at hmore
      rw [slice?_back]
      exact ⟨[passed], rfl, rfl, by simpa using hfilled.symm⟩
    · next hdone =>
      have hempty : byteLength passed = 0 := by
        rw [byteLength_append] at hdone
        omega
      rw [eq_nil_of_byteLength_eq_zero hempty]
      exact ⟨[], rfl, rfl, List.not_mem_nil⟩
  | cons c rest ih =>
    have hnext : byteLength (copied ++ passed) + c.utf8Size =
        byteLength (copied ++ (passed ++ [c])) := by
      simp [Nat.add_assoc]
    rw [doubledPieces?, hnext, doubleQuotes_cons]
    split
    · next hquote =>
      obtain ⟨front, hfront, hpassed, hfilled⟩ := filledSlice?_append copied passed (c :: rest)
      have hsplit : value = copied ++ (passed ++ [c]) ++ [] ++ rest := by simp [h]
      have hbehind := ih hsplit
      rw [List.append_nil] at hbehind
      obtain ⟨back, hback, hrest, hfilledBack⟩ := hbehind
      rw [h, hfront, ← h, hback]
      refine ⟨front ++ ['\'', '\''] :: back, rfl, ?_, ?_⟩
      · simp [hpassed, hrest]
      · simp [hfilled, hfilledBack]
    · have hsplit : value = copied ++ (passed ++ [c]) ++ rest := by simp [h]
      have hlater := ih hsplit
      rwa [List.append_assoc] at hlater

theorem exists_quotedPieces? (value : Text) :
    ∃ pieces, quotedPieces? value = some pieces ∧ pieces.flatten = quoted value ∧ [] ∉ pieces := by
  have hstart : value = [] ++ [] ++ value := rfl
  obtain ⟨pieces, hpieces, hwritten, hfilled⟩ := exists_doubledPieces? hstart
  refine ⟨['\''] :: pieces ++ [['\'']], ?_, ?_, ?_⟩
  · exact congrArg (Option.map _) hpieces
  · simp [hwritten, quoted]
  · simp [hfilled]

/-! ## Reading -/

private theorem readQuotedBody?_doubleQuotes_append (text rest : Text) :
    readQuotedBody? (doubleQuotes text ++ rest) =
      (readQuotedBody? rest).map fun (value, after) => (text ++ value, after) := by
  induction text with
  | nil =>
    rw [doubleQuotes, List.flatMap_nil, List.nil_append]
    cases readQuotedBody? rest <;> rfl
  | cons c text ih =>
    rw [doubleQuotes_cons, List.append_assoc]
    by_cases hquote : c = '\''
    · subst hquote
      rw [if_pos rfl, List.cons_append, List.singleton_append, readQuotedBody?, ih, Option.map_map]
      rfl
    · simp [readQuotedBody?, hquote, ih, Function.comp_def]

private theorem readQuoted?_quoted_append_iff {value rest : Text} :
    readQuoted? (quoted value ++ rest) = some (value, rest) ↔ rest.head? ≠ some '\'' := by
  have hbody : readQuoted? (quoted value ++ rest) =
      readQuotedBody? (doubleQuotes value ++ '\'' :: rest) := by
    rw [quoted, List.cons_append, List.cons_append, readQuoted?, if_pos rfl, List.append_assoc,
      List.singleton_append]
  rw [hbody]
  constructor
  · intro hread hhead
    obtain ⟨after, rfl⟩ := List.head?_eq_some_iff.1 hhead
    -- the quote that was to close the literal and the one behind it are read as one in the value
    rw [readQuotedBody?_doubleQuotes_append, readQuotedBody?, Option.map_map] at hread
    obtain ⟨⟨more, end'⟩, -, hpair⟩ := Option.map_eq_some_iff.1 hread
    have hvalue := (Prod.mk.inj hpair).1
    simp at hvalue
  · exact fun hhead => readQuotedBody?_doubleQuotes hhead value

private theorem quoted_inj {left right : Text} : quoted left = quoted right ↔ left = right := by
  constructor
  · intro h
    have hleft : readQuoted? (quoted left ++ []) = some (left, []) :=
      readQuoted?_quoted_append_iff.2 (by simp)
    rw [h, readQuoted?_quoted_append_iff.2 (by simp)] at hleft
    exact (Prod.mk.inj (Option.some.inj hleft)).1.symm
  · rintro rfl
    rfl

/-- A literal is written without cutting a character in two and without an empty piece. Reading it
in front of a text gives the value and that text exactly if the text begins with no quote. No two
values have one literal. -/
theorem literal_is_read_back (value : Text) :
    (∃ pieces, quotedPieces? value = some pieces ∧ pieces.flatten = quoted value ∧
      [] ∉ pieces) ∧
    (∀ rest, readQuoted? (quoted value ++ rest) = some (value, rest) ↔
      rest.head? ≠ some '\'') ∧
    ∀ other, quoted other = quoted value ↔ other = value :=
  ⟨exists_quotedPieces? value, fun _ => readQuoted?_quoted_append_iff, fun _ => quoted_inj⟩

/-- Quotes at both ends and two in a row, around characters of two and four bytes. -/
example : (quotedPieces? "'é''😀'".toList).map List.flatten = some "'''é''''😀'''".toList := by
  decide

end SqlSelect.Text
