import CalculatorTrials.Outcome
import CalculatorTrials.Proofs.Binary64.Bits

/-!
# Arithmetic on outcomes

What a minus sign and the operators make of outcomes, told by rules: numbers are
put together by the arithmetic of binary64, a divisor that is a zero of either
sign has no quotient, and what has no number keeps having none. Working an outcome
out follows these rules, and they leave no choice.
-/

namespace CalculatorTrials

/-! ## Opposites -/

/-- An outcome is the opposite of another one. -/
inductive Outcome.IsOpposite : Outcome → Outcome → Prop where
  | value (number : Float) : IsOpposite (.value (-number)) (.value number)
  | divisionByZero : IsOpposite .divisionByZero .divisionByZero

/-- Negating an outcome gives its opposite, and nothing else is its opposite. -/
theorem Outcome.isOpposite_iff
    (opposite outcome : Outcome) :
    opposite.IsOpposite outcome ↔ outcome.negate = opposite := by
  constructor
  · intro isOpposite
    cases isOpposite with
    | value number => rfl
    | divisionByZero => rfl
  · rintro rfl
    cases outcome with
    | value number => exact .value number
    | divisionByZero => exact .divisionByZero

/-! ## Operators -/

namespace Operator

/-- An operator between two outcomes yields a third one. -/
inductive Yields : Operator → Outcome → Outcome → Outcome → Prop where
  | add (left right : Float) :
      Yields .add (.value left) (.value right) (.value (left + right))
  | sub (left right : Float) :
      Yields .sub (.value left) (.value right) (.value (left - right))
  | mul (left right : Float) :
      Yields .mul (.value left) (.value right) (.value (left * right))
  | div (left : Float) {right : Float} :
      right ≠ 0 →
      right ≠ -0 →
      Yields .div (.value left) (.value right) (.value (left / right))
  | zeroDivisor (left : Float) {right : Float} :
      right = 0 ∨ right = -0 →
      Yields .div (.value left) (.value right) .divisionByZero
  | left (operator : Operator) (right : Outcome) :
      Yields operator .divisionByZero right .divisionByZero
  | right (operator : Operator) (left : Outcome) :
      Yields operator left .divisionByZero .divisionByZero

/-- An operator yields what is worked out on two numbers. -/
theorem yields_apply
    (operator : Operator)
    (left right : Float) :
    operator.Yields (.value left) (.value right)
      (operator.apply left right) := by
  cases operator using cases_four with
  | add => exact .add left right
  | sub => exact .sub left right
  | mul => exact .mul left right
  | div =>
      rw [apply]
      by_cases isZero : (right == 0) = true
      · rw [if_pos isZero]
        exact .zeroDivisor left ((Binary64.beq_zero_iff_eq right).mp isZero)
      · rw [if_neg isZero]
        rw [Binary64.beq_zero_iff_eq, not_or] at isZero
        exact .div left isZero.1 isZero.2

/-- An operator yields what is worked out on two outcomes. -/
theorem yields_combine
    (operator : Operator)
    (left right : Outcome) :
    operator.Yields left right (operator.combine left right) := by
  cases left with
  | divisionByZero => exact .left operator right
  | value dividend =>
      cases right with
      | divisionByZero => exact .right operator (.value dividend)
      | value divisor => exact operator.yields_apply dividend divisor

/-- An operator yields nothing but what is worked out. -/
theorem Yields.combine_eq
    {operator : Operator}
    {left right outcome : Outcome}
    (yields : operator.Yields left right outcome) :
    operator.combine left right = outcome := by
  cases yields with
  | add left right => rfl
  | sub left right => rfl
  | mul left right => rfl
  | @div left right notZero notNegativeZero =>
      have isNoZero : ¬(right == 0) = true := by
        rw [Binary64.beq_zero_iff_eq, not_or]
        exact ⟨notZero, notNegativeZero⟩
      exact if_neg isNoZero
  | zeroDivisor left isZero =>
      exact if_pos ((Binary64.beq_zero_iff_eq _).mpr isZero)
  | left operator right => rfl
  | right operator left => cases left <;> rfl

theorem yields_iff
    (operator : Operator)
    (left right outcome : Outcome) :
    operator.Yields left right outcome ↔
      operator.combine left right = outcome := by
  constructor
  · exact Yields.combine_eq
  · rintro rfl
    exact operator.yields_combine left right

end Operator
end CalculatorTrials
