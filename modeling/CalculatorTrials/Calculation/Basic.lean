import CalculatorTrials.Decimal.Basic
import CalculatorTrials.Outcome

/-!
# Calculations

What a line of calculator input says: numbers, opposites and binary operations.
Groups and plus signs leave no trace beyond the shape of the tree.
-/

namespace CalculatorTrials

/-- The meaning of a line of input. -/
inductive Calculation where
  | number (value : Decimal)
  | negate (operand : Calculation)
  | binary (operator : Operator) (left right : Calculation)
  deriving DecidableEq, Repr

namespace Calculation

/-- The outcome of a calculation. -/
def outcome : Calculation → Outcome
  | number value => .value value.toFloat
  | negate operand => operand.outcome.negate
  | binary operator left right => operator.combine left.outcome right.outcome

end Calculation
end CalculatorTrials
