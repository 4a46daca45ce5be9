/-!
# White space

The characters with the property White_Space, and texts without such characters
at their ends.
-/

namespace CalculatorTrials
namespace Text

/-- Whether a character is white space. -/
def isWhiteSpace (character : Char) : Bool :=
  let code := character.toNat
  (0x9 ≤ code && code ≤ 0xD) || code == 0x20 || code == 0x85 ||
    code == 0xA0 || code == 0x1680 || (0x2000 ≤ code && code ≤ 0x200A) ||
    code == 0x2028 || code == 0x2029 || code == 0x202F || code == 0x205F ||
    code == 0x3000

/-- A text without its longest end of characters of one kind. -/
def dropEnd
    (kind : Char → Bool)
    (text : List Char) : List Char :=
  (text.reverse.dropWhile kind).reverse

/-- A text without white space at its end. -/
def trimEnd (text : List Char) : List Char :=
  dropEnd isWhiteSpace text

/-- A text without white space at its start and at its end. -/
def trim (text : List Char) : List Char :=
  trimEnd (text.dropWhile isWhiteSpace)

/-- A text without line terminators at its end. -/
def dropTerminators (text : List Char) : List Char :=
  dropEnd (fun character => character == '\n' || character == '\r') text

end Text
end CalculatorTrials
