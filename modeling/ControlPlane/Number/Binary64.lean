/-!
# Binary floating-point numbers of 64 bits

A finite number is a sign, a mantissa below `2 ^ 53` and a power of two. `Binary64.round` takes a
fraction to the nearest of these numbers, to the even mantissa on a tie; products and quotients are
the rounded exact results.
-/

namespace ControlPlane

/-- The number `± mantissa · 2 ^ exponent`. -/
structure Binary64 where
  negative : Bool
  mantissa : Nat
  exponent : Int
  deriving DecidableEq, Repr

namespace Binary64

def minExponent : Int := -1074

def maxExponent : Int := 971

def zero (negative : Bool) : Binary64 :=
  ⟨negative, 0, minExponent⟩

/-- Quotient and remainder of `num / den` in units of `2 ^ exponent`, with the divisor used. -/
def unitsOf (num den : Nat) (exponent : Int) : Nat × Nat × Nat :=
  let scaledNum := num <<< (-exponent).toNat
  let scaledDen := den <<< exponent.toNat
  (scaledNum / scaledDen, scaledNum % scaledDen, scaledDen)

/-- The nearest integer to `quotient + remainder / divisor`, the even one on a tie. -/
def nearest (quotient remainder divisor : Nat) : Nat :=
  if 2 * remainder < divisor then quotient
  else if divisor < 2 * remainder then quotient + 1
  else quotient + quotient % 2

/-- The number nearest to `num / den`; nothing if that is beyond the largest one. -/
def round (negative : Bool) (num den : Nat) : Option Binary64 :=
  if num = 0 then some (zero negative)
  else
    let guess : Int := (Nat.log2 num : Int) - Nat.log2 den - 52
    let tight := if (unitsOf num den guess).1 < 1 <<< 52 then guess - 1 else guess
    let exponent := max tight minExponent
    let (quotient, remainder, divisor) := unitsOf num den exponent
    let mantissa := nearest quotient remainder divisor
    let rounded : Binary64 :=
      if mantissa = 1 <<< 53 then ⟨negative, 1 <<< 52, exponent + 1⟩
      else ⟨negative, mantissa, exponent⟩
    if rounded.exponent ≤ maxExponent then some rounded else none

/-- The magnitude as numerator and denominator. -/
def fraction (x : Binary64) : Nat × Nat :=
  (x.mantissa <<< x.exponent.toNat, 1 <<< (-x.exponent).toNat)

/-- The number nearest to a natural number. -/
def ofNat (n : Nat) : Option Binary64 :=
  round false n 1

/-- The rounded product, with the sign of the first factor. -/
def mul (x y : Binary64) : Option Binary64 :=
  let (xn, xd) := x.fraction
  let (yn, yd) := y.fraction
  round x.negative (xn * yn) (xd * yd)

/-- The rounded quotient, with the sign of the dividend. -/
def div (x y : Binary64) : Option Binary64 :=
  let (xn, xd) := x.fraction
  let (yn, yd) := y.fraction
  round x.negative (xn * yd) (xd * yn)

end Binary64

end ControlPlane
