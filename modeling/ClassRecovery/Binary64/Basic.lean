namespace ClassRecovery

/-!
# Doubles carried by their bits

Recovery never calculates with a double: a literal is carried from the input
to the output unchanged, and the only question asked of two doubles is whether
they are equal.  A double is therefore kept as its sixty-four bits.

Two equalities must not be confused.  Propositional equality is equality of
bits.  `Binary64.sameValue` is numeric equality, under which the two zeros
agree and a value that is not a number differs even from itself.
-/

/-- A double-precision number, by its bits: sign, eleven bits of exponent,
fifty-two bits of fraction. -/
structure Binary64 where
  bits : UInt64
deriving DecidableEq, Inhabited, Repr

namespace Binary64

/-- The number of values of the fifty-two bits of a fraction. -/
def fractionSize : Nat :=
  0x10000000000000

/-- The number of values of the sixty-three bits without the sign. -/
def magnitudeSize : Nat :=
  0x8000000000000000

/-- Whether the sign bit is set.  It is meaningful for zeros as well. -/
def negative (number : Binary64) : Bool :=
  magnitudeSize ≤ number.bits.toNat

/-- The exponent field, before its bias is taken off. -/
def exponentField (number : Binary64) : Nat :=
  number.bits.toNat / fractionSize % 2048

/-- The fraction field, without the leading bit that normal numbers imply. -/
def fraction (number : Binary64) : Nat :=
  number.bits.toNat % fractionSize

/-- Infinities and values that are not numbers share the largest exponent. -/
def isFinite (number : Binary64) : Bool :=
  number.exponentField != 2047

/-- Not a number: the largest exponent with a fraction that is not zero. -/
def isNaN (number : Binary64) : Bool :=
  number.exponentField == 2047 && number.fraction != 0

/-- Either of the two zeros. -/
def isZero (number : Binary64) : Bool :=
  number.exponentField == 0 && number.fraction == 0

/-- Numeric equality.  Apart from the zeros and the values that are not
numbers, each number has a single spelling in bits. -/
def sameValue (left right : Binary64) : Bool :=
  !left.isNaN && !right.isNaN && (left.bits == right.bits || (left.isZero && right.isZero))

end Binary64

end ClassRecovery
