import SqlSelect.Value.Basic
import SqlSelect.Proofs.Text.Letters
import SqlSelect.Proofs.Text.Words

/-!
The written form of a value that is no text: it is never empty, and its characters are those of
numbers, so it holds no quote and no blank. The text of an integer is read back as the integer.
-/

set_option autoImplicit false
set_option relaxedAutoImplicit false

namespace SqlSelect

/-- A digit, a sign, a point, or a letter of an infinite number or of `NaN`. -/
def isNumberChar (c : Char) : Bool := c.isDigit || "-.NaNinf".toList.contains c

namespace Text

def IsBare (text : Text) : Prop := text ≠ [] ∧ '\'' ∉ text

def IsNumeric (text : Text) : Prop := text ≠ [] ∧ ∀ c ∈ text, isNumberChar c = true

instance (text : Text) : Decidable text.IsNumeric :=
  decidable_of_iff (text ≠ [] ∧ text.all isNumberChar = true) (by simp [IsNumeric])

private theorem isBlank_of_isNumberChar {c : Char} (h : isNumberChar c = true) :
    isBlank c = false := by
  rw [Bool.eq_false_iff]
  intro hblank
  have hcodes : ∀ code ∈ blankCodes, isNumberChar (Char.ofNat code) = false := by decide
  have hmem : c.toNat ∈ blankCodes := by simpa [isBlank] using hblank
  have hother := hcodes c.toNat hmem
  rw [Char.ofNat_toNat, h] at hother
  exact Bool.noConfusion hother

theorem isNumberChar_toLower {c : Char} (h : isNumberChar c = true) :
    isNumberChar c.toLower = true := by
  -- the one capital among the characters of numbers is there as a small letter too
  rw [isNumberChar, Bool.or_eq_true] at h
  rcases h with hdigit | hmark
  · rw [toLower_of_isDigit hdigit, isNumberChar, hdigit, Bool.true_or]
  · have hmarks : "-.NaNinf".toList.all (isNumberChar ·.toLower) = true := by decide
    exact List.all_eq_true.1 hmarks c (by simpa using hmark)

theorem IsNumeric.notMem {text : Text} (h : text.IsNumeric) {c : Char}
    (hc : isNumberChar c = false) : c ∉ text := by
  intro hmem
  rw [h.2 c hmem] at hc
  exact Bool.noConfusion hc

theorem IsNumeric.isWord {text : Text} (h : text.IsNumeric) : text.IsWord :=
  ⟨h.1, fun c hc => isBlank_of_isNumberChar (h.2 c hc)⟩

theorem IsNumeric.not_sameLetters {text : Text} (h : text.IsNumeric) {keyword : Text} {c : Char}
    (hmem : c ∈ foldCase keyword) (hc : isNumberChar c = false) :
    sameLetters text keyword = false := by
  rw [sameLetters_comm]
  refine not_sameLetters_of_forall hmem fun d hd hlower => ?_
  rw [← hlower, isNumberChar_toLower (h.2 d hd)] at hc
  exact Bool.noConfusion hc

private theorem IsNumeric.minus {text : Text} (h : text.IsNumeric) : IsNumeric ('-' :: text) :=
  ⟨by simp, List.forall_mem_cons.2 ⟨by decide, h.2⟩⟩

theorem ofNat_inj {m n : Nat} (h : ofNat m = ofNat n) : m = n := by
  have hread := congrArg readDigits? h
  rw [readDigits?_ofNat, readDigits?_ofNat] at hread
  exact Option.some.inj hread

private theorem isNumberChar_of_mem_ofNat {n : Nat} {c : Char} (h : c ∈ ofNat n) :
    isNumberChar c = true := by
  rw [isNumberChar, isDigit_of_mem_ofNat h, Bool.true_or]

theorem isNumeric_ofNat (n : Nat) : IsNumeric (ofNat n) :=
  ⟨ofNat_ne_nil n, fun _ => isNumberChar_of_mem_ofNat⟩

theorem isNumeric_ofInt (n : Int) : IsNumeric (ofInt n) := by
  rw [ofInt]
  split
  · exact (isNumeric_ofNat _).minus
  · exact isNumeric_ofNat _

private theorem isNumberChar_of_mem_padded {width n : Nat} {c : Char} (h : c ∈ padded width n) :
    isNumberChar c = true := by
  rw [padded, List.leftpad, List.mem_append, List.mem_replicate] at h
  rcases h with ⟨-, rfl⟩ | hmem
  · decide
  · exact isNumberChar_of_mem_ofNat hmem

private theorem readInt?_ofInt (n : Int) : readInt? (ofInt n) = some n := by
  -- a number without a minus sign begins with a digit, so no sign is taken off it
  rw [ofInt]
  split
  · have hsame : -(n.natAbs : Int) = n := by omega
    rw [readInt?, readDigits?_ofNat]
    exact congrArg some hsame
  · have hsame : (n.natAbs : Int) = n := by omega
    obtain ⟨c, rest, hdigits⟩ := List.exists_cons_of_ne_nil (ofNat_ne_nil n.natAbs)
    have hdigit : c.isDigit = true := isDigit_of_mem_ofNat (hdigits ▸ List.mem_cons_self)
    have hread := readDigits?_ofNat n.natAbs
    rw [hdigits] at hread ⊢
    rw [readInt?, hread]
    · exact congrArg some hsame
    all_goals
      rintro tail ⟨⟩
      exact absurd hdigit (by decide)

theorem readInt64?_ofInt (n : Int64) : readInt64? (ofInt n.toInt) = some n := by
  have hrange : Int64.minValue.toInt ≤ n.toInt ∧ n.toInt ≤ Int64.maxValue.toInt :=
    ⟨n.minValue_le_toInt, n.toInt_le⟩
  rw [readInt64?, readInt?_ofInt]
  simp only [hrange, and_self, dite_true, Int64.ofIntLE_toInt]

end Text

private theorem isNumeric_positional (digits : Nat) (exponent : Int) :
    (positional digits exponent).IsNumeric := by
  rw [positional]
  split
  · refine ⟨by simp [Text.ofNat_ne_nil], fun c hc => ?_⟩
    rw [List.mem_append, List.mem_replicate] at hc
    rcases hc with hmem | ⟨-, rfl⟩
    · exact Text.isNumberChar_of_mem_ofNat hmem
    · decide
  · refine ⟨by simp, fun c hc => ?_⟩
    rw [List.mem_append, List.mem_cons] at hc
    rcases hc with hmem | rfl | hmem
    · exact Text.isNumberChar_of_mem_padded (List.mem_of_mem_take hmem)
    · decide
    · exact Text.isNumberChar_of_mem_padded (List.mem_of_mem_drop hmem)

private theorem FloatFormat.isNumeric_text (format : FloatFormat) (x : Floating) :
    (format.text x).IsNumeric := by
  cases x with
  | nan => exact show Text.IsNumeric "NaN".toList by decide
  | infinite negative =>
    cases negative with
    | false => exact show Text.IsNumeric "inf".toList by decide
    | true => exact show Text.IsNumeric "-inf".toList by decide
  | finite negative significand exponent =>
    have hbody : Text.IsNumeric
        (if significand = 0 then ['0'] else format.shortest significand exponent) := by
      split
      · decide
      · exact isNumeric_positional _ _
    rw [FloatFormat.text]
    cases negative with
    | false => exact hbody
    | true => exact hbody.minus

theorem Value.isNumeric_of_plain? {value : Value} {content : Text}
    (h : value.plain? = some (content, false)) : content.IsNumeric := by
  cases value with
  | null => simp [Value.plain?] at h
  | text content => simp [Value.plain?] at h
  | bool truth =>
    obtain ⟨rfl, -⟩ := Prod.mk.inj (Option.some.inj h)
    cases truth <;> decide
  | single x =>
    obtain ⟨rfl, -⟩ := Prod.mk.inj (Option.some.inj h)
    exact FloatFormat.isNumeric_text _ x
  | double x =>
    obtain ⟨rfl, -⟩ := Prod.mk.inj (Option.some.inj h)
    exact FloatFormat.isNumeric_text _ x
  | int8 n | int16 n | int32 n | int64 n =>
    obtain ⟨rfl, -⟩ := Prod.mk.inj (Option.some.inj h)
    exact Text.isNumeric_ofInt _
  | uint8 n | uint16 n | uint32 n | uint64 n =>
    obtain ⟨rfl, -⟩ := Prod.mk.inj (Option.some.inj h)
    exact Text.isNumeric_ofNat _

theorem Value.isBare_of_plain? {value : Value} {content : Text}
    (h : value.plain? = some (content, false)) : content.IsBare :=
  have hnumeric := isNumeric_of_plain? h
  ⟨hnumeric.1, hnumeric.notMem (by decide)⟩

end SqlSelect
