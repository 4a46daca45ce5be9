import CalculatorTrials.Decimal.Numeral

/-!
# Reading binary64 numbers

A number is an optional sign in front of a numeral or of one of the words
`inf`, `infinity` and `nan`, in letters of any case.
-/

namespace CalculatorTrials
namespace Binary64

/-- The number of a text without a sign. -/
def parseUnsigned? (text : List Char) : Option Float :=
  let word := text.map Char.toLower
  if word = "inf".toList ∨ word = "infinity".toList then
    some (ofMagnitude infinity)
  else if word = "nan".toList then
    some (ofMagnitude (infinity + 1))
  else
    (Numeral.read? text).map Decimal.toFloat

/-- The number of a text. -/
def parse? : List Char → Option Float
  | '+' :: text => parseUnsigned? text
  | '-' :: text => (parseUnsigned? text).map (- ·)
  | text => parseUnsigned? text

end Binary64
end CalculatorTrials
