import CalculatorTrials.Calculation.Basic
import CalculatorTrials.Calculation.Terminal

/-!
# The grammar of lines

A line is a list of letters, and a letter is a character together with the
terminal that it stands for. The rules say which lists are lines and what
calculation each of them says:

* a line is a sum with blanks around it;
* a sum is a product, or a sum, an additive operator and a product;
* a product is an operand, or a product, a multiplicative operator and an
  operand;
* an operand is a numeral, a sum in parentheses, or a sign and an operand.

Blanks may stand between all of these but not inside a numeral. The rules do not
say how a line is read. `Says` relates the characters of a line to its
calculation, and `MayFollow` the start of a line to what can come next.
-/

namespace CalculatorTrials
namespace Grammar

/-- A character of a line with the terminal that it stands for. -/
structure Letter where
  terminal : Terminal
  character : Char
  admitted : terminal.admits character = true

/-- The characters of a list of letters. -/
def characters (letters : List Letter) : List Char :=
  letters.map Letter.character

/-- Any number of blanks. -/
def Blanks (letters : List Letter) : Prop :=
  ∀ letter ∈ letters, letter.terminal = .blank

/-- Any number of digits. -/
def Digits (letters : List Letter) : Prop :=
  ∀ letter ∈ letters, letter.terminal = .digit

/-- The number that digits denote. -/
def natural (digits : List Letter) : Nat :=
  Nat.ofDigitChars 10 (characters digits) 0

/-- The digits in front of the exponent of a numeral, on the left and on the
right of its point. -/
inductive Mantissa : List Letter → List Letter → List Letter → Prop where
  | whole :
      Digits left →
      left ≠ [] →
      Mantissa left left []
  | fraction :
      Digits left →
      point.terminal = .point →
      Digits right →
      left ≠ [] ∨ right ≠ [] →
      Mantissa (left ++ point :: right) left right

/-- The exponent of a numeral, which may be left out. -/
inductive Exponent : List Letter → Int → Prop where
  | absent : Exponent [] 0
  | unsigned :
      marker.terminal = .exponentLetter →
      Digits digits →
      digits ≠ [] →
      Exponent (marker :: digits) (natural digits)
  | signed :
      marker.terminal = .exponentLetter →
      sign.terminal = .exponentSign →
      Digits digits →
      digits ≠ [] →
      Exponent (marker :: sign :: digits)
        (if sign.character = '-' then -natural digits else natural digits)

/-- The numerals with their numbers. -/
inductive Numeral : List Letter → Decimal → Prop where
  | intro :
      Mantissa mantissa left right →
      Exponent exponent power →
      Numeral (mantissa ++ exponent)
        ⟨natural (left ++ right), power - right.length⟩

/-- The terminal of an operator. -/
def terminal : Operator → Terminal
  | .add => .plus
  | .sub => .minus
  | .mul => .times
  | .div => .divide

/-- The levels of the rules, from the loosest to the tightest. -/
inductive Level where
  | sum
  | product
  | operand
  deriving DecidableEq, Repr

/-- The lists of letters of a level with their calculations. -/
inductive Derives : Level → List Letter → Calculation → Prop where
  | product :
      Derives .product letters calculation →
      Derives .sum letters calculation
  | additive (operator : Additive) :
      Derives .sum left first →
      Blanks before →
      sign.terminal = terminal (.additive operator) →
      Blanks behind →
      Derives .product right second →
      Derives .sum (left ++ before ++ sign :: (behind ++ right))
        (.binary (.additive operator) first second)
  | operand :
      Derives .operand letters calculation →
      Derives .product letters calculation
  | multiplicative (operator : Multiplicative) :
      Derives .product left first →
      Blanks before →
      sign.terminal = terminal (.multiplicative operator) →
      Blanks behind →
      Derives .operand right second →
      Derives .product (left ++ before ++ sign :: (behind ++ right))
        (.binary (.multiplicative operator) first second)
  | numeral :
      Numeral letters number →
      Derives .operand letters (.number number)
  | group :
      opening.terminal = .openGroup →
      Blanks before →
      Derives .sum body calculation →
      Blanks behind →
      closing.terminal = .closeGroup →
      Derives .operand (opening :: (before ++ body ++ behind ++ [closing]))
        calculation
  | plus :
      sign.terminal = .plus →
      Blanks blanks →
      Derives .operand operand calculation →
      Derives .operand (sign :: (blanks ++ operand)) calculation
  | minus :
      sign.terminal = .minus →
      Blanks blanks →
      Derives .operand operand calculation →
      Derives .operand (sign :: (blanks ++ operand)) (.negate calculation)

/-- The lines with their calculations. -/
inductive Line : List Letter → Calculation → Prop where
  | intro :
      Blanks before →
      Derives .sum letters calculation →
      Blanks behind →
      Line (before ++ letters ++ behind) calculation

/-- The characters are a line that says the calculation. -/
def Says (line : List Char) (calculation : Calculation) : Prop :=
  ∃ letters, Line letters calculation ∧ characters letters = line

/-- The terminal can come next after the start of a line. The end of the line
can come next if the start is a line by itself. -/
def MayFollow (start : List Char) : Terminal → Prop
  | .endOfLine => ∃ calculation, Says start calculation
  | terminal =>
      ∃ before next behind calculation,
        Line (before ++ next :: behind) calculation ∧
          characters before = start ∧ next.terminal = terminal

end Grammar
end CalculatorTrials
