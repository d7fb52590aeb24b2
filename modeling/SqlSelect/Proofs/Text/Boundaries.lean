import SqlSelect.Text.Bytes

/-!
Texts cut at offsets. Main statement: a text is cut at an offset exactly if it is put together of
two texts of which the first is that long.
-/

set_option autoImplicit false
set_option relaxedAutoImplicit false

namespace SqlSelect.Text

variable {text front middle back : Text} {offset : Nat}

private theorem splitAtByte?_byteLength (front back : Text) :
    splitAtByte? (byteLength front) (front ++ back) = some (front, back) := by
  induction front with
  | nil => simp [splitAtByte?]
  | cons c front ih =>
    obtain ⟨size, hsize⟩ := Nat.exists_eq_add_one.2 c.utf8Size_pos
    have hlength : byteLength (c :: front) = size + byteLength front + 1 := by
      rw [byteLength_cons, hsize]
      omega
    have hfits : c.utf8Size ≤ size + byteLength front + 1 := by omega
    have hrest : size + byteLength front + 1 - c.utf8Size = byteLength front := by omega
    rw [hlength, List.cons_append, splitAtByte?, if_pos hfits, hrest, ih, Option.map_some]

private theorem splitAtByte?_eq_some_iff :
    splitAtByte? offset text = some (front, back) ↔
      text = front ++ back ∧ byteLength front = offset := by
  constructor
  · intro h
    induction text generalizing offset front with
    | nil =>
      cases offset with
      | zero =>
        obtain ⟨rfl, rfl⟩ := Prod.mk.inj (Option.some.inj h)
        exact ⟨rfl, rfl⟩
      | succ offset => cases h
    | cons c rest ih =>
      cases offset with
      | zero =>
        obtain ⟨rfl, rfl⟩ := Prod.mk.inj (Option.some.inj h)
        exact ⟨rfl, rfl⟩
      | succ offset =>
        rw [splitAtByte?] at h
        split at h
        · next hfits =>
          obtain ⟨⟨inner, behind⟩, hsplit, hpair⟩ := Option.map_eq_some_iff.1 h
          obtain ⟨rfl, rfl⟩ := Prod.mk.inj hpair
          obtain ⟨rfl, hlength⟩ := ih hsplit
          refine ⟨rfl, ?_⟩
          rw [byteLength_cons, hlength]
          omega
        · cases h
  · rintro ⟨rfl, rfl⟩
    exact splitAtByte?_byteLength front back

theorem isBoundary_iff :
    IsBoundary text offset ↔ ∃ front back, text = front ++ back ∧ byteLength front = offset := by
  rw [IsBoundary, Option.isSome_iff_exists, Prod.exists]
  simp only [splitAtByte?_eq_some_iff]

theorem slice?_eq_some_iff {start stop : Nat} : slice? start stop text = some middle ↔
    ∃ front back, text = front ++ middle ++ back ∧ byteLength front = start ∧
      byteLength (front ++ middle) = stop := by
  simp only [slice?, Option.bind_eq_some_iff, Option.map_eq_some_iff, Prod.exists,
    splitAtByte?_eq_some_iff]
  constructor
  · rintro ⟨whole, back, ⟨rfl, hstop⟩, front, middle, ⟨rfl, hstart⟩, rfl⟩
    exact ⟨front, back, rfl, hstart, hstop⟩
  · rintro ⟨front, back, rfl, hstart, hstop⟩
    exact ⟨front ++ middle, back, ⟨rfl, hstop⟩, front, middle, ⟨rfl, hstart⟩, rfl⟩

theorem slice?_append (front middle back : Text) :
    slice? (byteLength front) (byteLength front + byteLength middle) (front ++ middle ++ back) =
      some middle :=
  slice?_eq_some_iff.2 ⟨front, back, rfl, rfl, byteLength_append front middle⟩

theorem slice?_front (front back : Text) :
    slice? 0 (byteLength front) (front ++ back) = some front := by
  have hslice := slice?_append [] front back
  simpa using hslice

theorem slice?_back (front back : Text) :
    slice? (byteLength front) (byteLength (front ++ back)) (front ++ back) = some back := by
  have hslice := slice?_append front back []
  simpa using hslice

theorem eq_nil_of_byteLength_eq_zero (h : byteLength text = 0) : text = [] := by
  cases text with
  | nil => rfl
  | cons c rest =>
    have hsize := c.utf8Size_pos
    rw [byteLength_cons] at h
    omega

end SqlSelect.Text
