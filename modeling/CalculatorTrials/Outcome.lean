import CalculatorTrials.Expression.Symbol

/-!
# Outcomes

Evaluating an expression gives a binary64 number or runs into a divisor that is
zero. A division by zero inside an expression is the outcome of the whole.
-/

namespace CalculatorTrials

/-- What an expression evaluates to. -/
inductive Outcome where
  | value (number : Float)
  | divisionByZero
  deriving DecidableEq

namespace Outcome

/-- The outcome with the opposite sign. -/
def negate : Outcome → Outcome
  | value number => value (-number)
  | divisionByZero => divisionByZero

end Outcome

namespace Operator

/-- The outcome of an operator on two numbers. A divisor is zero whatever its
sign. -/
def apply (left right : Float) : Operator → Outcome
  | add => .value (left + right)
  | sub => .value (left - right)
  | mul => .value (left * right)
  | div => if right == 0 then .divisionByZero else .value (left / right)

/-- The outcome of an operator on two outcomes. -/
def combine (operator : Operator) : Outcome → Outcome → Outcome
  | .value left, .value right => operator.apply left right
  | _, _ => .divisionByZero

end Operator
end CalculatorTrials
