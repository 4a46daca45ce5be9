/-!
# Magnitudes of binary64 numbers

A binary64 number is a sign and a magnitude. Magnitudes are named by their bit
patterns without the sign bit, so that their order is the order of the values
and neighbouring values have neighbouring patterns. Every finite value is a
whole number of units of `2 ^ (-1074)`, the least positive value, which keeps
all of the arithmetic here in the natural numbers.

Rounding to nearest needs no case for overflow: the pattern of infinity stands
for `2 ^ 1024`, the first value out of range, and takes part as any other.
-/

namespace CalculatorTrials
namespace Binary64

/-- The weight of the leading bit of a significand, `2 ^ 52`. -/
def leadingBit : Nat := 0x10000000000000

/-- The magnitude of infinity, the least one that is not finite. -/
def infinity : Nat := 2047 * leadingBit

/-- The number of units in one. -/
def unitsInOne : Nat := 1 <<< 1074

/-- The value of a magnitude, counted in units of `2 ^ (-1074)`. -/
def units (magnitude : Nat) : Nat :=
  if magnitude < leadingBit then magnitude
  else
    (leadingBit + magnitude % leadingBit) <<< (magnitude / leadingBit - 1)

/-- The whole number nearest to a quotient; of two equally near, the even one. -/
def divideToEven (numerator denominator : Nat) : Nat :=
  let quotient := numerator / denominator
  match compare (2 * (numerator % denominator)) denominator with
  | .lt => quotient
  | .eq => quotient + quotient % 2
  | .gt => quotient + 1

/-- The magnitude nearest to a quotient of units; of two equally near, the even
one. -/
def nearest (numerator denominator : Nat) : Nat :=
  let scale := (numerator / denominator).log2 - 52
  min infinity
    (scale * leadingBit + divideToEven numerator (denominator <<< scale))

/-- The weight of the sign bit, `2 ^ 63`. -/
def signBit : Nat := 0x8000000000000000

/-- The magnitude of a number. -/
def magnitude (number : Float) : Nat :=
  number.toBits.toNat % signBit

/-- Whether the sign bit of a number is set. -/
def isNegative (number : Float) : Bool :=
  signBit ≤ number.toBits.toNat

/-- The nonnegative number of a magnitude. -/
def ofMagnitude (magnitude : Nat) : Float :=
  Float.ofBits (UInt64.ofNat magnitude)

end Binary64
end CalculatorTrials
