import SqlSelect.Proofs.Text.Boundaries
import SqlSelect.Proofs.Text.FirstPlace

/-!
Searching the bytes of a text for a pattern of ASCII characters. Main statement: the bytes of the
pattern stand at an offset exactly if its characters stand there, so an offset that is found is that
of a character, and it is where the text is cut.
-/

set_option autoImplicit false
set_option relaxedAutoImplicit false

namespace SqlSelect.Text

def IsAscii (text : Text) : Prop := ∀ c ∈ text, c.toNat < 128

instance (text : Text) : Decidable (IsAscii text) :=
  decidable_of_iff (text.all fun c => decide (c.toNat < 128))
    (List.all_eq_true.trans (forall₂_congr fun _ _ => decide_eq_true_iff))

/-- Whether the bytes from an offset on begin with those of a pattern, in any case. -/
def StandsAt (pattern text : Text) (offset : Nat) : Prop :=
  foldBytes (bytes pattern) <+: foldBytes ((bytes text).drop offset)

structure IsFirstOffset (pattern text : Text) (offset : Nat) : Prop where
  stands : StandsAt pattern text offset
  first : ∀ earlier < offset, ¬StandsAt pattern text earlier

/-! ## Characters -/

section Characters

variable {c d : Char}

private theorem encode_of_lt (h : c.toNat < 128) :
    String.utf8EncodeChar c = [UInt8.ofNat c.toNat] :=
  if_pos (Nat.le_of_lt_succ h)

private theorem le_toNat_of_mem_encode (h : 128 ≤ c.toNat) {byte : UInt8}
    (hbyte : byte ∈ String.utf8EncodeChar c) : 128 ≤ byte.toNat := by
  have hlarge : ¬c.val.toNat ≤ 127 := by
    have hval : c.val.toNat = c.toNat := rfl
    omega
  simp only [String.utf8EncodeChar, hlarge, if_false] at hbyte
  split at hbyte
  · simp only [List.mem_cons, List.not_mem_nil, or_false] at hbyte
    rcases hbyte with rfl | rfl <;> simp only [UInt8.toNat_ofNat'] <;> omega
  · split at hbyte
    · simp only [List.mem_cons, List.not_mem_nil, or_false] at hbyte
      rcases hbyte with rfl | rfl | rfl <;> simp only [UInt8.toNat_ofNat'] <;> omega
    · simp only [List.mem_cons, List.not_mem_nil, or_false] at hbyte
      rcases hbyte with rfl | rfl | rfl | rfl <;> simp only [UInt8.toNat_ofNat'] <;> omega

private theorem foldByte_of_le {byte : UInt8} (h : 128 ≤ byte.toNat) : foldByte byte = byte := by
  refine if_neg fun hletter => ?_
  have hhigh := UInt8.le_iff_toNat_le.1 hletter.2
  have hbound : (90 : UInt8).toNat = 90 := rfl
  omega

private theorem toLower_of_le (h : 128 ≤ c.toNat) : c.toLower = c := by
  refine toLower_of_isUpper_eq_false (decide_eq_false fun hletter => ?_)
  have hhigh := UInt32.le_iff_toNat_le.1 hletter.2
  have hval : c.val.toNat = c.toNat := rfl
  have hbound : 'Z'.val.toNat = 90 := rfl
  omega

private theorem toNat_toLower_lt (h : c.toNat < 128) : c.toLower.toNat < 128 := by
  have hcodes : ∀ code < 128, (Char.ofNat code).toLower.toNat < 128 := by decide
  have hcode := hcodes c.toNat h
  rwa [Char.ofNat_toNat] at hcode

private theorem foldByte_ofNat (h : c.toNat < 128) :
    foldByte (UInt8.ofNat c.toNat) = UInt8.ofNat c.toLower.toNat := by
  have hcodes : ∀ code < 128,
      foldByte (UInt8.ofNat code) = UInt8.ofNat (Char.ofNat code).toLower.toNat := by decide
  have hcode := hcodes c.toNat h
  rwa [Char.ofNat_toNat] at hcode

private theorem lt_of_toLower_eq (h : c.toLower = d.toLower) (hd : d.toNat < 128) :
    c.toNat < 128 := by
  by_contra hlarge
  have hlower := toNat_toLower_lt hd
  rw [← h, toLower_of_le (by omega)] at hlower
  exact hlarge hlower

private theorem foldByte_eq_iff (hc : c.toNat < 128) (hd : d.toNat < 128) :
    foldByte (UInt8.ofNat c.toNat) = foldByte (UInt8.ofNat d.toNat) ↔ c.toLower = d.toLower := by
  rw [foldByte_ofNat hc, foldByte_ofNat hd]
  constructor
  · intro h
    have hcodes := congrArg UInt8.toNat h
    have hcSmall := toNat_toLower_lt hc
    have hdSmall := toNat_toLower_lt hd
    rw [UInt8.toNat_ofNat', UInt8.toNat_ofNat', Nat.mod_eq_of_lt (by omega),
      Nat.mod_eq_of_lt (by omega)] at hcodes
    rw [← Char.ofNat_toNat c.toLower, hcodes, Char.ofNat_toNat]
  · intro h
    rw [h]

end Characters

/-! ## Texts -/

section Texts

variable {pattern text found : Text}

private theorem isAscii_cons {c : Char} : IsAscii (c :: text) ↔ c.toNat < 128 ∧ IsAscii text :=
  List.forall_mem_cons

private theorem bytes_cons_of_lt {c : Char} (h : c.toNat < 128) (text : Text) :
    bytes (c :: text) = UInt8.ofNat c.toNat :: bytes text := by
  rw [bytes_cons, encode_of_lt h]
  rfl

private theorem IsAscii.byteLength_eq (h : IsAscii text) : byteLength text = text.length := by
  induction text with
  | nil => rfl
  | cons c text ih =>
    obtain ⟨hc, htext⟩ := isAscii_cons.1 h
    rw [byteLength, bytes_cons_of_lt hc, List.length_cons, List.length_cons, ← ih htext, byteLength]

private theorem IsAscii.of_sameLetters (h : IsAscii pattern)
    (hsame : sameLetters pattern found = true) :
    IsAscii found := by
  intro c hc
  have hfolded : c.toLower ∈ foldCase pattern := by
    rw [beq_iff_eq.1 hsame]
    exact List.mem_map_of_mem hc
  obtain ⟨d, hd, hlower⟩ := List.mem_map.1 hfolded
  exact lt_of_toLower_eq hlower.symm (h d hd)

private theorem not_prefix_drop_encode {p c : Char} (hp : p.toNat < 128) (hc : ¬c.toNat < 128)
    {offset : Nat}
    (hinside : offset < c.utf8Size) (tail rest : List UInt8) :
    ¬foldByte (UInt8.ofNat p.toNat) :: tail <+:
      foldBytes ((String.utf8EncodeChar c ++ rest).drop offset) := by
  rw [← String.length_utf8EncodeChar] at hinside
  rw [List.drop_append_of_le_length hinside.le, List.drop_eq_getElem_cons hinside, List.cons_append]
  intro hprefix
  have hfirst := (List.cons_prefix_cons.1 hprefix).1
  have hlarge := le_toNat_of_mem_encode (by omega) (List.getElem_mem hinside)
  rw [foldByte_ofNat hp, foldByte_of_le hlarge] at hfirst
  have hsmall := toNat_toLower_lt hp
  rw [← hfirst, UInt8.toNat_ofNat', Nat.mod_eq_of_lt (by omega)] at hlarge
  omega

private theorem foldBytes_prefix_iff (h : IsAscii pattern) :
    foldBytes (bytes pattern) <+: foldBytes (bytes text) ↔ foldCase pattern <+: foldCase text := by
  induction pattern generalizing text with
  | nil => simp [foldBytes, bytes, foldCase]
  | cons p pattern ih =>
    obtain ⟨hp, hpattern⟩ := isAscii_cons.1 h
    have hbytes : foldBytes (bytes (p :: pattern)) =
        foldByte (UInt8.ofNat p.toNat) :: foldBytes (bytes pattern) := by
      rw [bytes_cons_of_lt hp]
      rfl
    have hletters : foldCase (p :: pattern) = p.toLower :: foldCase pattern := rfl
    rw [hbytes, hletters]
    cases text with
    | nil => simp [foldBytes, bytes, foldCase]
    | cons c rest =>
      have hrest : foldCase (c :: rest) = c.toLower :: foldCase rest := rfl
      rw [hrest, List.cons_prefix_cons]
      by_cases hc : c.toNat < 128
      · have hfirst : foldBytes (bytes (c :: rest)) =
            foldByte (UInt8.ofNat c.toNat) :: foldBytes (bytes rest) := by
          rw [bytes_cons_of_lt hc]
          rfl
        rw [hfirst, List.cons_prefix_cons, foldByte_eq_iff hp hc, ih hpattern]
      · constructor
        · intro hprefix
          rw [bytes_cons] at hprefix
          exact absurd hprefix (not_prefix_drop_encode hp hc c.utf8Size_pos _ _)
        · rintro ⟨hlower, -⟩
          exact absurd (lt_of_toLower_eq hlower.symm hp) hc

/-- The bytes of a pattern stand at an offset exactly if its characters stand behind a text of that
length. -/
private theorem standsAt_iff (h : IsAscii pattern) (hne : pattern ≠ []) {offset : Nat} :
    StandsAt pattern text offset ↔ ∃ front back, text = front ++ back ∧
      byteLength front = offset ∧ foldCase pattern <+: foldCase back := by
  constructor
  · obtain ⟨p, tail, rfl⟩ := List.exists_cons_of_ne_nil hne
    have hp := (isAscii_cons.1 h).1
    intro hstands
    rw [StandsAt, bytes_cons_of_lt hp, foldBytes, List.map_cons] at hstands
    induction text generalizing offset with
    | nil => simp [foldBytes, bytes] at hstands
    | cons c rest ih =>
      rcases Nat.eq_zero_or_pos offset with rfl | hpos
      · refine ⟨[], c :: rest, rfl, rfl, (foldBytes_prefix_iff h).1 ?_⟩
        rwa [bytes_cons_of_lt hp, foldBytes, List.map_cons]
      · have hlength := String.length_utf8EncodeChar c
        rw [bytes_cons] at hstands
        by_cases hinside : offset < c.utf8Size
        · have hlarge : ¬c.toNat < 128 := by
            intro hsmall
            rw [encode_of_lt hsmall, List.length_singleton] at hlength
            omega
          exact absurd hstands (not_prefix_drop_encode hp hlarge hinside _ _)
        · rw [List.drop_append, List.drop_eq_nil_of_le (by omega), List.nil_append,
            hlength] at hstands
          obtain ⟨front, back, rfl, hfront, hbegins⟩ := ih hstands
          refine ⟨c :: front, back, rfl, ?_, hbegins⟩
          rw [byteLength_cons, hfront]
          omega
  · rintro ⟨front, back, rfl, rfl, hbegins⟩
    rw [StandsAt, bytes_append, byteLength, List.drop_left]
    exact (foldBytes_prefix_iff h).2 hbegins

private theorem foldCase_prefix_iff : foldCase pattern <+: foldCase text ↔
    ∃ middle back, text = middle ++ back ∧ sameLetters pattern middle = true := by
  rw [← startsWith_iff]
  constructor
  · intro h
    exact ⟨text.take pattern.length, text.drop pattern.length,
      (List.take_append_drop _ _).symm, h⟩
  · rintro ⟨middle, back, htext, hsame⟩
    exact startsWith_of_eq_append hsame htext

private theorem standsAt_iff_sameLetters (h : IsAscii pattern) (hne : pattern ≠ []) {offset : Nat} :
    StandsAt pattern text offset ↔ ∃ front middle back, text = front ++ middle ++ back ∧
      byteLength front = offset ∧ sameLetters pattern middle = true := by
  rw [standsAt_iff h hne]
  constructor
  · rintro ⟨front, rest, rfl, hfront, hbegins⟩
    obtain ⟨middle, back, rfl, hsame⟩ := foldCase_prefix_iff.1 hbegins
    exact ⟨front, middle, back, (List.append_assoc _ _ _).symm, hfront, hsame⟩
  · rintro ⟨front, middle, back, rfl, hfront, hsame⟩
    exact ⟨front, middle ++ back, List.append_assoc _ _ _, hfront,
      foldCase_prefix_iff.2 ⟨middle, back, rfl, hsame⟩⟩

theorem IsAscii.byteLength_eq_of_sameLetters (h : IsAscii pattern)
    (hsame : sameLetters pattern found = true) : byteLength found = byteLength pattern := by
  rw [(h.of_sameLetters hsame).byteLength_eq, h.byteLength_eq, length_eq_of_sameLetters hsame]

theorem sameLetterBytes_iff (h : IsAscii pattern) :
    sameLetterBytes (bytes text) (bytes pattern) = true ↔ sameLetters pattern text = true := by
  rw [sameLetterBytes, beq_iff_eq]
  constructor
  · intro hbytes
    have hlength : byteLength text = byteLength pattern := by
      have hlengths := congrArg List.length hbytes
      rwa [foldBytes, foldBytes, List.length_map, List.length_map] at hlengths
    have hbegins : foldCase pattern <+: foldCase text := by
      rw [← foldBytes_prefix_iff h, hbytes]
    obtain ⟨middle, back, rfl, hsame⟩ := foldCase_prefix_iff.1 hbegins
    rw [byteLength_append, h.byteLength_eq_of_sameLetters hsame, Nat.add_eq_left] at hlength
    rwa [eq_nil_of_byteLength_eq_zero hlength, List.append_nil]
  · intro hsame
    have hletters : foldCase pattern <+: foldCase text := by rw [beq_iff_eq.1 hsame]
    refine (((foldBytes_prefix_iff h).2 hletters).eq_of_length ?_).symm
    rw [foldBytes, foldBytes, List.length_map, List.length_map, ← byteLength, ← byteLength,
      h.byteLength_eq_of_sameLetters hsame]

private theorem StandsAt.isBoundary (h : IsAscii pattern) (hne : pattern ≠ []) {offset : Nat}
    (hstands : StandsAt pattern text offset) :
    IsBoundary text offset ∧ IsBoundary text (offset + byteLength pattern) := by
  obtain ⟨front, middle, back, rfl, hfront, hsame⟩ := (standsAt_iff_sameLetters h hne).1 hstands
  refine ⟨isBoundary_iff.2 ⟨front, middle ++ back, List.append_assoc _ _ _, hfront⟩,
    isBoundary_iff.2 ⟨front ++ middle, back, rfl, ?_⟩⟩
  rw [byteLength_append, hfront, h.byteLength_eq_of_sameLetters hsame]

private theorem length_le_of_byteLength_le {front front' back back' : Text}
    (h : front ++ back = front' ++ back') (hle : byteLength front ≤ byteLength front') :
    front.length ≤ front'.length := by
  rcases List.append_eq_append_iff.1 h with ⟨between, rfl, -⟩ | ⟨between, rfl, -⟩
  · simp
  · have hempty : byteLength between = 0 := by
      rw [byteLength_append] at hle
      omega
    rw [eq_nil_of_byteLength_eq_zero hempty, List.append_nil]

theorem IsFirstOffset.exists_cut (h : IsAscii pattern) (hne : pattern ≠ []) {offset : Nat}
    (hfirst : IsFirstOffset pattern text offset) :
    ∃ front middle back, text = front ++ middle ++ back ∧ byteLength front = offset ∧
      byteLength middle = byteLength pattern ∧ cut? pattern text = some (front, back) := by
  obtain ⟨front, middle, back, htext, hfront, hsame⟩ :=
    (standsAt_iff_sameLetters h hne).1 hfirst.stands
  refine ⟨front, middle, back, htext, hfront, h.byteLength_eq_of_sameLetters hsame,
    cut?_eq_some_iff.2 ⟨⟨middle, htext, hsame⟩, fun front' middle' back' htext' hsame' => ?_⟩⟩
  have hstands := (standsAt_iff_sameLetters h hne).2 ⟨front', middle', back', htext', rfl, hsame'⟩
  have hle : offset ≤ byteLength front' :=
    Nat.le_of_not_lt fun hlt => hfirst.first _ hlt hstands
  have hwhole := htext.symm.trans htext'
  rw [List.append_assoc, List.append_assoc] at hwhole
  exact length_le_of_byteLength_le hwhole (by omega)

theorem cut?_eq_none_of_not_standsAt (h : IsAscii pattern) (hne : pattern ≠ [])
    (hnowhere : ∀ offset, ¬StandsAt pattern text offset) : cut? pattern text = none := by
  rw [Option.eq_none_iff_forall_ne_some]
  rintro ⟨front, back⟩ hcut
  obtain ⟨middle, htext, hsame⟩ := (isFirstCut_of_cut? hcut).found
  exact hnowhere _ ((standsAt_iff_sameLetters h hne).2 ⟨front, middle, back, htext, rfl, hsame⟩)

end Texts

/-! ## Windows -/

section Windows

variable {size offset : Nat} {run : List UInt8} {p : List UInt8 → Bool} {pattern text : Text}

private theorem findIdx?_windows_eq_some_iff : (windows size run).findIdx? p = some offset ↔
    offset + size ≤ run.length ∧ p ((run.drop offset).take size) = true ∧
      ∀ earlier < offset, p ((run.drop earlier).take size) = false := by
  rw [List.findIdx?_eq_some_iff_getElem]
  simp only [windows, List.length_map, List.length_range, List.getElem_map, List.getElem_range,
    Bool.not_eq_true, exists_prop]
  have hrange : offset < run.length + 1 - size ↔ offset + size ≤ run.length := by omega
  rw [hrange]

private theorem standsAt_iff_window : StandsAt pattern text offset ↔
    sameLetterBytes (((bytes text).drop offset).take (byteLength pattern)) (bytes pattern) = true := by
  rw [StandsAt, List.prefix_iff_eq_take, sameLetterBytes, beq_iff_eq, eq_comm, foldBytes, foldBytes,
    foldBytes, List.length_map, List.map_take, byteLength]

private theorem StandsAt.add_le (hne : pattern ≠ []) (h : StandsAt pattern text offset) :
    offset + byteLength pattern ≤ byteLength text := by
  have hlength := h.length_le
  have hfilled : 0 < byteLength pattern :=
    Nat.pos_of_ne_zero fun hzero => hne (eq_nil_of_byteLength_eq_zero hzero)
  rw [foldBytes, foldBytes, List.length_map, List.length_map, List.length_drop] at hlength
  rw [byteLength] at hfilled ⊢
  rw [byteLength]
  omega

/-- What a search for a pattern answers: the first offset where it stands, which falls between
characters as its end does, or nothing if it stands nowhere. -/
structure FindsFirst (pattern text : Text) (answer : Option Nat) : Prop where
  eq_some_iff : ∀ offset, answer = some offset ↔ IsFirstOffset pattern text offset
  eq_none_iff : answer = none ↔ ∀ offset, ¬StandsAt pattern text offset
  starts : ∀ offset, answer = some offset → IsBoundary text offset
  ends : ∀ offset, answer = some offset → IsBoundary text (offset + byteLength pattern)

private theorem exists_isFirstOffset (h : StandsAt pattern text offset) :
    ∃ first, IsFirstOffset pattern text first := by
  induction offset using Nat.strongRecOn with
  | ind offset ih =>
    by_cases hearlier : ∃ earlier < offset, StandsAt pattern text earlier
    · obtain ⟨earlier, hlt, hstands⟩ := hearlier
      exact ih earlier hlt hstands
    · exact ⟨offset, h, fun earlier hlt hstands => hearlier ⟨earlier, hlt, hstands⟩⟩

private theorem findsFirst_windows (h : IsAscii pattern) (hne : pattern ≠ [])
    (hp : ∀ window : List UInt8, window.length = byteLength pattern →
      (p window = true ↔ sameLetterBytes window (bytes pattern) = true)) :
    FindsFirst pattern text ((windows (byteLength pattern) (bytes text)).findIdx? p) := by
  have hsome (offset : Nat) :
      (windows (byteLength pattern) (bytes text)).findIdx? p = some offset ↔
        IsFirstOffset pattern text offset := by
    have hwindow (place : Nat) (hplace : place + byteLength pattern ≤ byteLength text) :
        p (((bytes text).drop place).take (byteLength pattern)) = true ↔
          StandsAt pattern text place := by
      rw [standsAt_iff_window]
      refine hp _ ?_
      rw [List.length_take, List.length_drop, ← byteLength]
      omega
    rw [findIdx?_windows_eq_some_iff, ← byteLength]
    constructor
    · rintro ⟨hplace, hfound, hearlier⟩
      refine ⟨(hwindow offset hplace).1 hfound, fun earlier hlt hstands => ?_⟩
      have hother := (hwindow earlier (by omega)).2 hstands
      rw [hearlier earlier hlt] at hother
      cases hother
    · rintro ⟨hstands, hfirst⟩
      have hplace := hstands.add_le hne
      refine ⟨hplace, (hwindow offset hplace).2 hstands, fun earlier hlt => ?_⟩
      rw [Bool.eq_false_iff]
      exact fun hfound => hfirst earlier hlt ((hwindow earlier (by omega)).1 hfound)
  refine ⟨hsome, ⟨fun hnone offset hstands => ?_, fun hnowhere => ?_⟩, fun offset hfound => ?_,
    fun offset hfound => ?_⟩
  · obtain ⟨first, hfirst⟩ := exists_isFirstOffset hstands
    rw [(hsome first).2 hfirst] at hnone
    cases hnone
  · rw [Option.eq_none_iff_forall_ne_some]
    exact fun offset hfound => hnowhere offset ((hsome offset).1 hfound).stands
  · exact (((hsome offset).1 hfound).stands.isBoundary h hne).1
  · exact (((hsome offset).1 hfound).stands.isBoundary h hne).2

theorem findsFirst_findPattern? (h : IsAscii pattern) (hne : pattern ≠ []) (text : Text) :
    FindsFirst pattern text (findPattern? pattern text) :=
  findsFirst_windows h hne fun _ _ => Iff.rfl

private theorem foldByte_eq_space_iff {byte : UInt8} : foldByte byte = 32 ↔ byte = 32 := by
  rw [foldByte]
  split
  · next hletter =>
    have hlow := UInt8.le_iff_toNat_le.1 hletter.1
    have hhigh := UInt8.le_iff_toNat_le.1 hletter.2
    simp only [← UInt8.toNat_inj, UInt8.toNat_add, UInt8.toNat_ofNat] at hlow hhigh ⊢
    omega
  · exact Iff.rfl

private theorem bytes_spaced (word : Text) :
    bytes (' ' :: word ++ [' ']) = 32 :: bytes word ++ [32] := by
  have hspace : bytes [' '] = [32] := rfl
  rw [bytes_append, bytes_cons, hspace]
  rfl

theorem byteLength_spaced (word : Text) :
    byteLength (' ' :: word ++ [' ']) = byteLength word + 2 := by
  rw [byteLength, bytes_spaced, byteLength]
  simp

private theorem isSpacedWindow_iff {word : Text} {window : List UInt8}
    (h : window.length = byteLength word + 2) :
    (window.head? == some 32 && window.getLast? == some 32 &&
        sameLetterBytes window.tail.dropLast (bytes word)) = true ↔
      sameLetterBytes window (bytes (' ' :: word ++ [' '])) = true := by
  obtain ⟨first, rest, rfl⟩ := List.exists_cons_of_length_eq_add_one h
  obtain ⟨middle, last, rfl⟩ := (List.eq_nil_or_concat' rest).resolve_left (by
    rintro rfl
    simp at h)
  have hlast : (first :: (middle ++ [last])).getLast? = some last :=
    List.getLast?_concat (l := first :: middle)
  rw [bytes_spaced, hlast, List.head?_cons, List.tail_cons, List.dropLast_concat]
  simp only [sameLetterBytes, foldBytes, Bool.and_eq_true, beq_iff_eq, Option.some.injEq,
    List.map_cons, List.map_append, List.map_nil, List.cons_append, List.cons.injEq]
  have hspace : foldByte 32 = 32 := rfl
  rw [hspace, foldByte_eq_space_iff]
  constructor
  · rintro ⟨⟨rfl, rfl⟩, hmiddle⟩
    exact ⟨rfl, by rw [hmiddle, hspace]⟩
  · rintro ⟨rfl, hbehind⟩
    obtain ⟨hmiddle, hend⟩ := List.append_inj' hbehind rfl
    exact ⟨⟨rfl, foldByte_eq_space_iff.1 (List.singleton_inj.1 hend)⟩, hmiddle⟩

theorem isAscii_spaced {word : Text} (h : IsAscii word) : IsAscii (' ' :: word ++ [' ']) := by
  intro c hc
  rcases List.mem_append.1 hc with hfront | hlast
  · rcases List.mem_cons.1 hfront with rfl | hword
    · decide
    · exact h c hword
  · rw [List.mem_singleton.1 hlast]
    decide

theorem findsFirst_findWord? {word : Text} (h : IsAscii word) (text : Text) :
    FindsFirst (' ' :: word ++ [' ']) text (findWord? word text) := by
  rw [findWord?, ← byteLength_spaced]
  refine findsFirst_windows (isAscii_spaced h) (by simp) fun window hwindow => isSpacedWindow_iff ?_
  rw [hwindow, byteLength_spaced]

end Windows

end SqlSelect.Text
