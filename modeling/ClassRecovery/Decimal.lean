namespace ClassRecovery

/-!
# Decimal numbers as they are written

A decimal keeps the sign, the digits and the power of ten of a written number.
Equal numbers may be written differently, and a negative zero differs from a
positive one; deciding which binary number a decimal stands for is not done
here.
-/

/-- The number `± digits · 10 ^ exponent`. -/
structure Decimal where
  negative : Bool
  digits : Nat
  exponent : Int
deriving DecidableEq, Inhabited, Repr

namespace Decimal

/-- A whole number, written without an exponent. -/
def ofInt (value : Int) : Decimal :=
  ⟨decide (value < 0), value.natAbs, 0⟩

/-- The decimal digits of a number, at least one. -/
def digitsOf (value : Nat) : List Char :=
  Nat.toDigits 10 value

/-- Take trailing zeros off the digits and put them into the exponent.  The
bound is the number of digits there are to take. -/
def trim (value : Decimal) : Decimal :=
  if value.digits = 0 then ⟨value.negative, 0, 0⟩
  else go (digitsOf value.digits).length value
where
  go : Nat → Decimal → Decimal
    | 0, value => value
    | bound + 1, value =>
        if value.digits % 10 = 0 then
          go bound ⟨value.negative, value.digits / 10, value.exponent + 1⟩
        else value

/-- The digits without the sign.  Numbers from `10 ^ -5` up to `10 ^ 16` are
written with a point in place, and all others with a power of ten. -/
def magnitudeText (value : Decimal) : String :=
  let trimmed := value.trim
  let digits := digitsOf trimmed.digits
  let point : Int := digits.length + trimmed.exponent
  let written :=
    if trimmed.digits = 0 then ['0', '.', '0']
    else if digits.length ≤ point && point ≤ 16 then
      digits ++ List.replicate (point.toNat - digits.length) '0' ++ ['.', '0']
    else if 0 < point && point ≤ 16 then
      digits.take point.toNat ++ '.' :: digits.drop point.toNat
    else if -5 < point && point ≤ 0 then
      ['0', '.'] ++ List.replicate (-point).toNat '0' ++ digits
    else
      let fraction := if digits.length ≤ 1 then [] else '.' :: digits.drop 1
      digits.take 1 ++ fraction ++ 'e' :: (toString (point - 1)).toList
  String.ofList written

/-- The written form.  It always holds a point or an exponent, so that it does
not read as a whole number. -/
def text (value : Decimal) : String :=
  if value.negative then "-" ++ value.magnitudeText else value.magnitudeText

end Decimal

end ClassRecovery
