import SqlSelect.Number.Integer
import SqlSelect.Number.Floating
import SqlSelect.Text.Case

/-!
Reading decimal text as a floating point number: digits with an optional point and an optional
exponent, or the name of a special value.
-/

set_option autoImplicit false
set_option relaxedAutoImplicit false

namespace SqlSelect

/-- The decimal number `digits * 10 ^ exponent`. -/
structure Decimal where
  digits : Nat
  exponent : Int

def Decimal.read? (text : Text) : Option Decimal :=
  let (whole, rest) := text.span Char.isDigit
  let (fraction, rest) := match rest with
    | '.' :: behind => behind.span Char.isDigit
    | _ => ([], rest)
  let digits := Nat.ofDigitChars 10 (whole ++ fraction) 0
  if whole.isEmpty ∧ fraction.isEmpty then none
  else match rest with
    | [] => some ⟨digits, -fraction.length⟩
    | c :: exponent =>
      if c = 'e' ∨ c = 'E' then
        (Text.readInt? exponent).map fun e => ⟨digits, e - fraction.length⟩
      else none

namespace FloatFormat

/-- The number of the format nearest to a decimal. The power of ten is formed only where it can
matter: a number of more digits than the format has binary places is too large, and one that
starts further behind the point than the least place is too small. -/
def ofDecimal (format : FloatFormat) (negative : Bool) (decimal : Decimal) : Floating :=
  if decimal.digits = 0 then .zero negative
  else
    let magnitude := decimal.exponent + (Text.ofNat decimal.digits).length
    if format.precision + format.greatestExponent < magnitude - 1 then .infinite negative
    else if magnitude < format.leastExponent - 1 then .zero negative
    else if 0 ≤ decimal.exponent then
      format.ofRatio negative (decimal.digits * Nat.pow 10 decimal.exponent.toNat) 1
    else format.ofRatio negative decimal.digits (Nat.pow 10 (-decimal.exponent).toNat)

/-- Reads a number, `inf`, `infinity` or `nan` in any case, behind an optional sign. -/
def read? (format : FloatFormat) (text : Text) : Option Floating :=
  let (negative, body) := match text with
    | '-' :: rest => (true, rest)
    | '+' :: rest => (false, rest)
    | _ => (false, text)
  match Decimal.read? body with
  | some decimal => some (format.ofDecimal negative decimal)
  | none =>
    if Text.sameLetters body "nan".toList then some .nan
    else if Text.sameLetters body "inf".toList ∨ Text.sameLetters body "infinity".toList then
      some (.infinite negative)
    else none

end FloatFormat

end SqlSelect
