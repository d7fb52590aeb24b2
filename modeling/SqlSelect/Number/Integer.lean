import SqlSelect.Text.Blank

/-!
Decimal integers as text. Reading allows one sign in front of at least one ASCII digit; writing
gives no leading zero and no plus sign. Reading undoes writing.
-/

set_option autoImplicit false
set_option relaxedAutoImplicit false

namespace SqlSelect.Text

def readDigits? (text : Text) : Option Nat :=
  if text.isEmpty ∨ text.all Char.isDigit = false then none else some (Nat.ofDigitChars 10 text 0)

/-- A natural number below `bound`, with or without a plus sign. -/
def readNatBelow? (bound : Nat) (text : Text) : Option Nat :=
  let digits := match text with
    | '+' :: rest => rest
    | _ => text
  (readDigits? digits).filter (· < bound)

def readInt? : Text → Option Int
  | '-' :: rest => (readDigits? rest).map fun n => -(n : Int)
  | '+' :: rest => (readDigits? rest).map fun n => (n : Int)
  | text => (readDigits? text).map fun n => (n : Int)

def readInt64? (text : Text) : Option Int64 :=
  match readInt? text with
  | none => none
  | some n =>
    if h : Int64.minValue.toInt ≤ n ∧ n ≤ Int64.maxValue.toInt then some (Int64.ofIntLE n h.1 h.2)
    else none

def ofNat (n : Nat) : Text := Nat.toDigits 10 n

def ofInt (n : Int) : Text := if n < 0 then '-' :: ofNat n.natAbs else ofNat n.natAbs

/-- The digits of a number, filled up with zeros to at least `width` of them. -/
def padded (width n : Nat) : Text := (ofNat n).leftpad width '0'

theorem ofNat_ne_nil (n : Nat) : ofNat n ≠ [] := by
  simp [ofNat]

theorem isDigit_of_mem_ofNat {n : Nat} {c : Char} (h : c ∈ ofNat n) : c.isDigit = true :=
  Nat.isDigit_of_mem_toDigits (by decide) (by decide) h

theorem readDigits?_ofNat (n : Nat) : readDigits? (ofNat n) = some n := by
  have hall : (ofNat n).all Char.isDigit = true :=
    List.all_eq_true.2 fun _ hc => isDigit_of_mem_ofNat hc
  simp [readDigits?, ofNat_ne_nil, hall]
  exact Nat.ofDigitChars_ten_toDigits

end SqlSelect.Text
