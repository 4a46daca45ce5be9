/-!
# Symbols of an expression

The operators between operands, the sign in front of a literal and the marker
in front of an exponent. The order of constructors is the order in which the
choices are numbered.
-/

namespace CalculatorTrials

/-- An operator between terms. -/
inductive Additive where
  | add
  | sub
  deriving DecidableEq, Repr

/-- An operator between the primaries of a term. -/
inductive Multiplicative where
  | mul
  | div
  deriving DecidableEq, Repr

/-- A binary operator. -/
inductive Operator where
  | additive (operator : Additive)
  | multiplicative (operator : Multiplicative)
  deriving DecidableEq, Repr

namespace Operator

@[match_pattern] abbrev add : Operator := .additive .add

@[match_pattern] abbrev sub : Operator := .additive .sub

@[match_pattern] abbrev mul : Operator := .multiplicative .mul

@[match_pattern] abbrev div : Operator := .multiplicative .div

/-- An operator is one of four. -/
@[elab_as_elim] theorem cases_four
    {motive : Operator → Prop}
    (add : motive add)
    (sub : motive sub)
    (mul : motive mul)
    (div : motive div)
    (operator : Operator) : motive operator := by
  cases operator with
  | additive operator =>
      cases operator with
      | add => exact add
      | sub => exact sub
  | multiplicative operator =>
      cases operator with
      | mul => exact mul
      | div => exact div

/-- All operators, in order. -/
def all : List Operator := [add, sub, mul, div]

/-- The character of an operator. -/
def character : Operator → Char
  | add => '+'
  | sub => '-'
  | mul => '*'
  | div => '/'

/-- Whether an operator stands between terms. -/
def isAdditive : Operator → Bool
  | .additive _ => true
  | .multiplicative _ => false

/-- The number of an operator. -/
def index : Operator → Nat
  | add => 0
  | sub => 1
  | mul => 2
  | div => 3

end Operator

/-- The sign in front of a literal. -/
inductive Sign where
  | unsigned
  | plus
  | minus
  deriving DecidableEq, Repr

namespace Sign

/-- All signs, in order. -/
def all : List Sign := [unsigned, plus, minus]

/-- The text of a sign. -/
def text : Sign → List Char
  | unsigned => []
  | plus => ['+']
  | minus => ['-']

/-- The number of a sign. -/
def index : Sign → Nat
  | unsigned => 0
  | plus => 1
  | minus => 2

end Sign

/-- The letter of an exponent with the sign that may follow it. -/
inductive Marker where
  | lower
  | upper
  | lowerPlus
  | lowerMinus
  | upperPlus
  | upperMinus
  deriving DecidableEq, Repr

namespace Marker

/-- All markers, in order. -/
def all : List Marker :=
  [lower, upper, lowerPlus, lowerMinus, upperPlus, upperMinus]

/-- The text of a marker. -/
def text : Marker → List Char
  | lower => ['e']
  | upper => ['E']
  | lowerPlus => ['e', '+']
  | lowerMinus => ['e', '-']
  | upperPlus => ['E', '+']
  | upperMinus => ['E', '-']

/-- The number of a marker. -/
def index : Marker → Nat
  | lower => 0
  | upper => 1
  | lowerPlus => 2
  | lowerMinus => 3
  | upperPlus => 4
  | upperMinus => 5

end Marker
end CalculatorTrials
