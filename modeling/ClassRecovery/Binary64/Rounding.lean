import ClassRecovery.Binary64.Basic
import ClassRecovery.Decimal

namespace ClassRecovery

/-!
# Decimals and doubles

Two conversions are given, both in exact natural-number arithmetic.
`Binary64.nearest` takes a decimal to the double nearest to it, a tie going to
the even neighbour.  `Binary64.shortest?` takes a finite double to a decimal
with the fewest digits that the first conversion takes back to it.
-/

namespace Binary64

/-- Divide to the nearest whole number, an exact half going to the even one. -/
def roundedQuotient (numerator denominator : Nat) : Nat :=
  let quotient := numerator / denominator
  let twice := 2 * (numerator % denominator)
  if twice < denominator || (twice == denominator && quotient % 2 == 0) then quotient
  else quotient + 1

/-- The exponent of the largest power of two that does not exceed the ratio of
two positive numbers. -/
def binaryExponent (numerator denominator : Nat) : Int :=
  let guess : Int := (numerator.log2 : Int) - (denominator.log2 : Int)
  let reached :=
    if 0 ≤ guess then decide (denominator * Nat.pow 2 guess.toNat ≤ numerator)
    else decide (denominator ≤ numerator * Nat.pow 2 (-guess).toNat)
  if reached then guess else guess - 1

/-- The bits, without the sign, of the double nearest to a ratio.  Below the
normal numbers the last place stays at `2 ^ -1074`, and a carry out of the
fraction moves into the exponent by itself. -/
def magnitudeOfRatio (numerator denominator : Nat) : Nat :=
  if numerator = 0 then 0
  else
    let place : Int := max (-1074) (binaryExponent numerator denominator - 52)
    let significand :=
      if 0 ≤ place then roundedQuotient numerator (denominator * Nat.pow 2 place.toNat)
      else roundedQuotient (numerator * Nat.pow 2 (-place).toNat) denominator
    min (significand + (place + 1074).toNat * fractionSize) (2047 * fractionSize)

/-- The bits, without the sign, of the double nearest to `digits · 10 ^ exponent`.
Exponents far outside the range are answered without computing the power. -/
def magnitudeOfDecimal (digits : Nat) (exponent : Int) : Nat :=
  let point : Int := (Decimal.digitsOf digits).length + exponent
  if digits = 0 || point < -400 then 0
  else if 400 < point then 2047 * fractionSize
  else if 0 ≤ exponent then magnitudeOfRatio (digits * Nat.pow 10 exponent.toNat) 1
  else magnitudeOfRatio digits (Nat.pow 10 (-exponent).toNat)

/-- The double nearest to a decimal.  A decimal too large for any finite double
becomes an infinity. -/
def nearest (value : Decimal) : Binary64 :=
  let sign := if value.negative then magnitudeSize else 0
  ⟨UInt64.ofNat (sign + magnitudeOfDecimal value.digits value.exponent)⟩

/-- The bits without the sign. -/
def magnitude (number : Binary64) : Nat :=
  number.bits.toNat % magnitudeSize

/-- The absolute value of a finite double as a ratio of natural numbers. -/
def ratio (number : Binary64) : Nat × Nat :=
  let significand :=
    if number.exponentField = 0 then number.fraction else number.fraction + fractionSize
  let exponent : Int := (max number.exponentField 1 : Int) - 1075
  if 0 ≤ exponent then (significand * Nat.pow 2 exponent.toNat, 1)
  else (significand, Nat.pow 2 (-exponent).toNat)

/-- The number of digits before the point of a positive ratio, negative for the
zeros after the point of a small one.  The bound on leading zeros covers all
doubles. -/
def pointPosition (numerator denominator : Nat) : Int :=
  if denominator ≤ numerator then (Decimal.digitsOf (numerator / denominator)).length
  else go 400 0 (numerator * 10)
where
  go : Nat → Int → Nat → Int
    | 0, position, _ => position
    | bound + 1, position, scaled =>
        if denominator ≤ scaled then position else go bound (position - 1) (scaled * 10)

/-- Of the two decimals next to a ratio whose last digit has the place `place`,
the nearer one that reads back as the given bits; a tie goes to the even one. -/
def neighbour? (magnitude numerator denominator : Nat) (place : Int) : Option Nat :=
  let scaled :=
    if 0 ≤ place then (numerator, denominator * Nat.pow 10 place.toNat)
    else (numerator * Nat.pow 10 (-place).toNat, denominator)
  let below := scaled.1 / scaled.2
  let closest := roundedQuotient scaled.1 scaled.2
  let other := if closest = below then below + 1 else below
  if magnitudeOfDecimal closest place = magnitude then some closest
  else if magnitudeOfDecimal other place = magnitude then some other
  else none

/-- A decimal with the fewest digits that reads back as the given double.
Seventeen digits are enough for every finite double. -/
def shortest? (number : Binary64) : Option Decimal :=
  if !number.isFinite then none
  else if number.isZero then some ⟨number.negative, 0, 0⟩
  else
    let (numerator, denominator) := number.ratio
    let point := pointPosition numerator denominator
    (List.range 17).findSome? fun (more : Nat) =>
      let place : Int := point - ((more : Int) + 1)
      (neighbour? number.magnitude numerator denominator place).map
        fun digits => ⟨number.negative, digits, place⟩

example : nearest ⟨false, 5, -1⟩ = ⟨0x3fe0000000000000⟩ := by decide +kernel
example : nearest ⟨true, 225, -2⟩ = ⟨0xc002000000000000⟩ := by decide +kernel
example : shortest? ⟨0x3fb999999999999a⟩ = some ⟨false, 1, -1⟩ := by decide +kernel

end Binary64

end ClassRecovery
