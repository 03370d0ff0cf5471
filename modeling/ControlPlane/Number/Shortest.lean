import ControlPlane.Number.Binary64

/-!
# The shortest decimal of a binary number

`Binary64.shortest` gives the fewest decimal digits that read back as the same number, and of those
the nearest. On the grid of decimals with a given number of digits only the two neighbours of the
number can be nearest to it, so these two are tested, for one digit, two digits, and so on.
-/

namespace ControlPlane.Binary64

/-- Powers of ten and of two that turn every comparison below into one of natural numbers. -/
def tenShift : Nat := 400

/-- See `tenShift`. -/
def twoShift : Nat := 1100

/-- A decimal `digits · 10 ^ exponent` on the common scale. -/
def scaleDecimal (digits : Nat) (exponent : Int) : Nat :=
  (digits * Nat.pow 10 (exponent + tenShift).toNat) <<< twoShift

/-- A multiple of a quarter of the number's last place on the common scale. -/
def scaleQuarters (x : Binary64) (quarters : Nat) : Nat :=
  (quarters * Nat.pow 10 tenShift) <<< (x.exponent - 2 + twoShift).toNat

/-- Whether a decimal lies among the reals that round to the number. -/
def readsBack (x : Binary64) (digits : Nat) (exponent : Int) : Bool :=
  let value := scaleDecimal digits exponent
  let below := if x.mantissa = 1 <<< 52 ∧ minExponent < x.exponent then 1 else 2
  let low := scaleQuarters x (4 * x.mantissa - below)
  let high := scaleQuarters x (4 * x.mantissa + 2)
  if x.mantissa % 2 = 0 then low ≤ value && value ≤ high else low < value && value < high

/-- How many digits stand before the decimal point; negative for leading zeros after it. -/
def magnitude (x : Binary64) : Int :=
  let (num, den) := x.fraction
  ((Nat.toDigits 10 (num * Nat.pow 10 tenShift / den)).length : Int) - tenShift

/-- The decimal of `count` digits nearest to the number among those that read back. -/
def onGrid? (x : Binary64) (count : Nat) : Option (Nat × Int) :=
  let exponent := x.magnitude - count
  let (num, den) := x.fraction
  let lower := num * Nat.pow 10 (-exponent).toNat / (den * Nat.pow 10 exponent.toNat)
  let upper := lower + 1
  match readsBack x lower exponent, readsBack x upper exponent with
  | false, false => none
  | true, false => some (lower, exponent)
  | false, true => some (upper, exponent)
  | true, true =>
    let middle := scaleQuarters x (8 * x.mantissa)
    let sum := scaleDecimal lower exponent + scaleDecimal upper exponent
    if middle < sum then some (lower, exponent)
    else if sum < middle then some (upper, exponent)
    else some (lower + lower % 2, exponent)

/-- The shortest decimal that reads back, as digits and a power of ten. Seventeen digits always
suffice. -/
def shortest (x : Binary64) : Nat × Int :=
  if x.mantissa = 0 then (0, 0)
  else ((List.range 17).findSome? fun count => x.onGrid? (count + 1)).getD (0, 0)

/-- Drops the zeros at the end of a digit string, counting them into the power of ten. -/
def dropZeros (digits : List Char) (exponent : Int) : List Char × Int :=
  let zeros := digits.reverse.takeWhile (· = '0')
  (digits.take (digits.length - zeros.length), exponent + zeros.length)

end ControlPlane.Binary64
