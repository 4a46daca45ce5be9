import CalculatorTrials.Binary64.Magnitude

/-!
# Unsigned decimal numbers

A decimal number is a whole number of powers of ten. Its binary64 value is the
nearest one, with ties to even, whatever the number of digits and the size of
the exponent.
-/

namespace CalculatorTrials

/-- The number `digits * 10 ^ exponent`. -/
structure Decimal where
  /-- All digits, read as one whole number. -/
  digits : Nat
  /-- The power of ten of the last digit. -/
  exponent : Int
  deriving DecidableEq, Repr

namespace Decimal

/-- The binary64 magnitude nearest to a decimal number.

Numbers of at least `10 ^ 309` are out of range and numbers below `2 ^ (-1075)`
round to zero, so these two cases form no power. -/
def magnitude (number : Decimal) : Nat :=
  if number.digits = 0 then 0
  else
    match number.exponent with
    | .ofNat exponent =>
        if 309 ≤ exponent then Binary64.infinity
        else
          Binary64.nearest
            (number.digits * Nat.pow 10 exponent * Binary64.unitsInOne) 1
    | .negSucc exponent =>
        if number.digits.log2 + 1076 ≤ 3 * (exponent + 1) then 0
        else
          Binary64.nearest
            (number.digits * Binary64.unitsInOne) (Nat.pow 10 (exponent + 1))

/-- The binary64 number nearest to a decimal number. -/
def toFloat (number : Decimal) : Float :=
  Binary64.ofMagnitude number.magnitude

end Decimal
end CalculatorTrials
