/-!
Binary floating point numbers, as a sign, a significand and an exponent, and the rounding of
ratios to a format. A format is its number of significant bits and the range of its unit
exponent; both formats of the library round to nearest, a tie to the even significand.
-/

set_option autoImplicit false
set_option relaxedAutoImplicit false

namespace SqlSelect

/-- A finite value is `significand * 2 ^ exponent` with its sign; zero keeps its sign too. -/
inductive Floating where
  | nan
  | infinite (negative : Bool)
  | finite (negative : Bool) (significand : Nat) (exponent : Int)
deriving DecidableEq

def Floating.zero (negative : Bool) : Floating := .finite negative 0 0

/-- The significant bits of a format and the least and greatest exponent of its last bit. -/
structure FloatFormat where
  precision : Nat
  leastExponent : Int
  greatestExponent : Int

/-- The nearest natural number to a ratio; a tie goes to the even one. -/
def roundRatio (numerator denominator : Nat) : Nat :=
  let whole := numerator / denominator
  let twice := 2 * (numerator % denominator)
  if twice < denominator ∨ (twice = denominator ∧ whole % 2 = 0) then whole else whole + 1

def scaleRatio (numerator denominator : Nat) (exponent : Int) : Nat × Nat :=
  if 0 ≤ exponent then (numerator, denominator * Nat.pow 2 exponent.toNat)
  else (numerator * Nat.pow 2 (-exponent).toNat, denominator)

namespace FloatFormat

def single : FloatFormat := ⟨24, -149, 104⟩

def double : FloatFormat := ⟨53, -1074, 971⟩

/-- The exponent under which a positive ratio has `precision` bits before the point, or the least
exponent of the format if the ratio is too small for that many. -/
def unitExponent (format : FloatFormat) (numerator denominator : Nat) : Int :=
  let guess : Int := numerator.log2 - denominator.log2 - format.precision
  let (n, d) := scaleRatio numerator denominator guess
  let exponent := if n / d < Nat.pow 2 format.precision then guess else guess + 1
  if exponent < format.leastExponent then format.leastExponent else exponent

def ofRatio (format : FloatFormat) (negative : Bool) (numerator denominator : Nat) : Floating :=
  if numerator = 0 then .zero negative
  else
    let exponent := format.unitExponent numerator denominator
    let (n, d) := scaleRatio numerator denominator exponent
    let significand := roundRatio n d
    let full := significand = Nat.pow 2 format.precision
    if significand = 0 then .zero negative
    else if format.greatestExponent < (if full then exponent + 1 else exponent) then
      .infinite negative
    else if full then .finite negative (Nat.pow 2 (format.precision - 1)) (exponent + 1)
    else .finite negative significand exponent

def ofInt (format : FloatFormat) (n : Int) : Floating := format.ofRatio (decide (n < 0)) n.natAbs 1

end FloatFormat

end SqlSelect
