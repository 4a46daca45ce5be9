import CalculatorTrials.Decimal.Shortest

/-!
# Text of binary64 numbers

A whole number of magnitude below `10 ^ 16` is written in full, and zero
without a sign. Any other finite number is written with its shortest digits:
around a point while the point is at most five places in front of the first
digit that counts and at most sixteen behind it, and with an exponent otherwise.
-/

namespace CalculatorTrials
namespace Decimal

/-- One digit, a point, the other digits if there are any, and the exponent. -/
def scientific (digits : List Char) (exponent : Int) : List Char :=
  let mantissa :=
    match digits with
    | first :: second :: rest => first :: '.' :: second :: rest
    | short => short
  mantissa ++ 'e' :: (toString exponent).toList

/-- Text of a positive decimal number that is no whole number below
`10 ^ 16`. -/
def layout (number : Decimal) : List Char :=
  let digits := (toString number.digits).toList
  let point := digits.length + number.exponent
  if number.exponent < 0 ∧ 0 < point ∧ point ≤ 16 then
    digits.take point.toNat ++ '.' :: digits.drop point.toNat
  else if number.exponent < 0 ∧ -5 < point ∧ point ≤ 0 then
    '0' :: '.' :: List.replicate (-point).toNat '0' ++ digits
  else
    scientific digits (point - 1)

end Decimal

namespace Binary64

/-- The whole number that a finite magnitude stands for, if it is one and lies
below `10 ^ 16`. -/
def wholeBelow16? (magnitude : Nat) : Option Nat :=
  let count := units magnitude
  if count % unitsInOne = 0 ∧ count / unitsInOne < 10000000000000000 then
    some (count / unitsInOne)
  else none

/-- Text of a number. -/
def text (number : Float) : List Char :=
  let size := magnitude number
  let sign := if isNegative number then ['-'] else []
  if infinity < size then ['n', 'a', 'n']
  else if size = infinity then sign ++ ['i', 'n', 'f']
  else
    match wholeBelow16? size with
    | some 0 => ['0']
    | some whole => sign ++ (toString whole).toList
    | none => sign ++ (Decimal.shortest size).layout

end Binary64
end CalculatorTrials
