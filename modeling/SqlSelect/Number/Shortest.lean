import SqlSelect.Number.Integer
import SqlSelect.Number.Floating

/-!
The shortest decimal text of a floating point number: of the decimals that lie nearer to it than
to any other number of its format, one with the fewest digits, and of those the nearest. The text
never has an exponent, and a whole number has no point.
-/

set_option autoImplicit false
set_option relaxedAutoImplicit false

namespace SqlSelect

/-- The numbers that round to `value`, all as multiples of one unit. The ends belong to the span
only if it is `closed`. -/
structure RoundingSpan where
  low : Nat
  value : Nat
  high : Nat
  closed : Bool

/-- The multiple of `step` next to the value that lies in the span, counted in steps. Of two, the
nearer one is taken, and of two at equal distance the greater. -/
def RoundingSpan.multiple? (span : RoundingSpan) (step : Nat) : Option Nat :=
  let below := span.value / step
  let above := below + 1
  let hasBelow := span.low < below * step ∨ (span.closed = true ∧ span.low = below * step)
  let hasAbove := above * step < span.high ∨ (span.closed = true ∧ above * step = span.high)
  if hasBelow ∧ (¬ hasAbove ∨ 2 * (span.value % step) < step) then some below
  else if hasAbove then some above
  else none

/-- The digits of the coarsest decimal grid, from `10 ^ power` downwards, that has a point in the
span, together with the power of that grid. -/
def RoundingSpan.coarsest (span : RoundingSpan) : Nat → Nat × Nat
  | 0 => (span.value, 0)
  | power + 1 =>
    match span.multiple? (Nat.pow 10 (power + 1)) with
    | some digits => (digits, power + 1)
    | none => span.coarsest power

def positional (digits : Nat) (exponent : Int) : Text :=
  if 0 ≤ exponent then Text.ofNat digits ++ List.replicate exponent.toNat '0'
  else
    let places := (-exponent).toNat
    let text := Text.padded (places + 1) digits
    text.take (text.length - places) ++ '.' :: text.drop (text.length - places)

namespace FloatFormat

def normalise (format : FloatFormat) (significand : Nat) (exponent : Int) : Nat × Int :=
  let missing := format.precision - 1 - significand.log2
  let allowed := (exponent - format.leastExponent).toNat
  let shift := if missing < allowed then missing else allowed
  (significand * Nat.pow 2 shift, exponent - shift)

/-- The span of a positive value in units of `10 ^ (-places)`, and `places`. Below a power of two
the next number of the format is only half as far away. -/
def spanOf (format : FloatFormat) (significand : Nat) (exponent : Int) : RoundingSpan × Nat :=
  let (m, e) := format.normalise significand exponent
  let quarter := e - 2
  let unit := if 0 ≤ quarter then Nat.pow 2 quarter.toNat else Nat.pow 5 (-quarter).toNat
  let narrow := m = Nat.pow 2 (format.precision - 1) ∧ format.leastExponent < e
  (⟨(4 * m - if narrow then 1 else 2) * unit, 4 * m * unit, (4 * m + 2) * unit, m % 2 == 0⟩,
    (-quarter).toNat)

def shortest (format : FloatFormat) (significand : Nat) (exponent : Int) : Text :=
  let (span, places) := format.spanOf significand exponent
  let (digits, power) := span.coarsest (Text.ofNat span.high).length
  positional digits (power - places)

/-- The text of a number; the sign of a zero is kept and that of a `NaN` is not. -/
def text (format : FloatFormat) : Floating → Text
  | .nan => "NaN".toList
  | .infinite negative => if negative then "-inf".toList else "inf".toList
  | .finite negative significand exponent =>
    let body := if significand = 0 then ['0'] else format.shortest significand exponent
    if negative then '-' :: body else body

end FloatFormat

end SqlSelect
