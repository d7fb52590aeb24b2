import SqlSelect.Text.Blank
import SqlSelect.Proofs.Text.Joining
import Mathlib.Data.List.DropRight
import Mathlib.Data.List.TakeWhile

/-!
Trimming and words of texts whose blanks are known.
-/

set_option autoImplicit false
set_option relaxedAutoImplicit false

namespace SqlSelect.Text

private theorem trimEnd_eq_nil_iff (text : Text) : trimEnd text = [] ↔ text.all isBlank = true := by
  rw [trimEnd, List.reverse_eq_nil_iff, List.dropWhile_eq_nil_iff, List.all_eq_true]
  simp

theorem trim_eq_nil_iff (text : Text) : trim text = [] ↔ text.all isBlank = true := by
  rw [trim, trimEnd_eq_nil_iff]
  have hsplit : text.takeWhile isBlank ++ trimStart text = text := List.takeWhile_append_dropWhile
  have hfront : (text.takeWhile isBlank).all isBlank = true := List.all_takeWhile
  rw [← congrArg (List.all · isBlank) hsplit, List.all_append, hfront, Bool.true_and]

theorem trimEnd_eq_self_of_suffix {text back : Text} (htext : trimEnd text = text)
    (hback : back <:+ text) : trimEnd back = back := by
  have hlast := List.rdropWhile_eq_self_iff.1 htext
  refine List.rdropWhile_eq_self_iff.2 fun hfilled => ?_
  rw [hback.getLast hfilled]
  exact hlast _

theorem trimEnd_cons {c : Char} {text : Text} (hc : isBlank c = false) (h : trimEnd text = text) :
    trimEnd (c :: text) = c :: text := by
  show List.rdropWhile isBlank (c :: text) = c :: text
  rw [List.rdropWhile_eq_self_iff]
  intro hfilled
  by_cases hempty : text = []
  · simp [hempty, hc]
  · rw [List.getLast_cons hempty]
    exact List.rdropWhile_eq_self_iff.1 h hempty

theorem trimEnd_trim (text : Text) : trimEnd (trim text) = trim text :=
  List.rdropWhile_idempotent isBlank (trimStart text)

structure IsEdged (text : Text) : Prop where
  head : ∃ c back, text = c :: back ∧ isBlank c = false
  last : ∃ front c, text = front ++ [c] ∧ isBlank c = false

theorem IsEdged.trim_eq {text : Text} (h : text.IsEdged) : trim text = text := by
  obtain ⟨c, back, hstart, hc⟩ := h.head
  obtain ⟨front, d, hend, hd⟩ := h.last
  have htrim : trimStart text = text := by
    rw [hstart, trimStart, List.dropWhile_cons, hc]
    rfl
  rw [trim, htrim, hend]
  exact List.rdropWhile_concat_neg isBlank front d (by simp [hd])

theorem IsEdged.append {left right : Text} (hleft : left.IsEdged) (middle : Text)
    (hright : right.IsEdged) : IsEdged (left ++ middle ++ right) := by
  obtain ⟨c, back, rfl, hc⟩ := hleft.head
  obtain ⟨front, d, rfl, hd⟩ := hright.last
  exact ⟨⟨c, _, rfl, hc⟩, ⟨_, d, (List.append_assoc _ front [d]).symm, hd⟩⟩

theorem isEdged_enclosed {first last : Char} (middle : Text) (hfirst : isBlank first = false)
    (hlast : isBlank last = false) : IsEdged (first :: middle ++ [last]) :=
  ⟨⟨first, middle ++ [last], rfl, hfirst⟩, ⟨first :: middle, last, rfl, hlast⟩⟩

theorem trim_enclosed {first last : Char} {middle : Text} (hfirst : isBlank first = false)
    (hlast : isBlank last = false) : trim (first :: middle ++ [last]) = first :: middle ++ [last] :=
  (isEdged_enclosed middle hfirst hlast).trim_eq

theorem trim_eq_iff {text body : Text} (htext : trimEnd text = text) (hbody : trim body = body) :
    trim text = body ↔ ∃ blanks : Text, blanks.all isBlank = true ∧ text = blanks ++ body := by
  constructor
  · intro h
    have hstart : trim text = trimStart text :=
      trimEnd_eq_self_of_suffix htext (List.dropWhile_suffix isBlank)
    refine ⟨text.takeWhile isBlank, List.all_takeWhile, ?_⟩
    rw [← h, hstart]
    exact List.takeWhile_append_dropWhile.symm
  · rintro ⟨blanks, hblanks, rfl⟩
    have hstart : trimStart (blanks ++ body) = trimStart body :=
      List.dropWhile_append_of_pos (List.all_eq_true.1 hblanks)
    rw [trim, hstart]
    exact hbody

end SqlSelect.Text
