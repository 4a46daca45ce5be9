import CalculatorTrials.Calculation.Basic

/-!
# Divisions by zero

A calculation has no number exactly if it divides by zero somewhere inside, in
however many operators and signs the division is wrapped.
-/

namespace CalculatorTrials
namespace Operator

/-- An operator on two numbers has no number only for a divisor that is zero. -/
theorem apply_eq_divisionByZero_iff
    (operator : Operator)
    (left right : Float) :
    operator.apply left right = .divisionByZero ↔
      operator = .div ∧ (right == 0) = true := by
  cases operator using cases_four <;> simp [apply]

/-- What has no number keeps having none under every operator. -/
theorem combine_eq_divisionByZero_iff
    (operator : Operator)
    (left right : Outcome) :
    operator.combine left right = .divisionByZero ↔
      left = .divisionByZero ∨ right = .divisionByZero ∨
        operator = .div ∧ ∃ divisor, right = .value divisor ∧
          (divisor == 0) = true := by
  cases left with
  | divisionByZero => simp [combine]
  | value dividend =>
      cases right with
      | divisionByZero => simp [combine]
      | value divisor =>
          simp [combine, apply_eq_divisionByZero_iff]

end Operator

namespace Calculation

/-- Some divisor inside the calculation is zero. -/
inductive DividesByZero : Calculation → Prop where
  | divisor :
      right.outcome = .value zero →
      (zero == 0) = true →
      DividesByZero (.binary .div left right)
  | negate :
      DividesByZero operand →
      DividesByZero (.negate operand)
  | left :
      DividesByZero first →
      DividesByZero (.binary operator first second)
  | right :
      DividesByZero second →
      DividesByZero (.binary operator first second)

/-- A calculation has no number if and only if it divides by zero. -/
theorem outcome_eq_divisionByZero_iff (calculation : Calculation) :
    calculation.outcome = .divisionByZero ↔ calculation.DividesByZero := by
  induction calculation with
  | number value =>
      constructor
      · intro impossible
        cases impossible
      · intro impossible
        cases impossible
  | negate operand inductionHypothesis =>
      constructor
      · intro fails
        apply DividesByZero.negate
        rw [← inductionHypothesis]
        rw [outcome] at fails
        cases result : operand.outcome with
        | value number =>
            rw [result] at fails
            cases fails
        | divisionByZero => rfl
      · intro divides
        cases divides with
        | negate divides =>
            rw [outcome, inductionHypothesis.mpr divides]
            rfl
  | binary operator left right leftHypothesis rightHypothesis =>
      rw [outcome, Operator.combine_eq_divisionByZero_iff]
      constructor
      · rintro (fails | fails | ⟨rfl, divisor, result, isZero⟩)
        · exact .left (leftHypothesis.mp fails)
        · exact .right (rightHypothesis.mp fails)
        · exact .divisor result isZero
      · intro divides
        cases divides with
        | divisor result isZero => exact .inr (.inr ⟨rfl, _, result, isZero⟩)
        | left divides => exact .inl (leftHypothesis.mpr divides)
        | right divides => exact .inr (.inl (rightHypothesis.mpr divides))

/-! ## Parts -/

/-- The parts of a calculation are the calculation itself and the parts of its
operands. -/
inductive IsPartOf : Calculation → Calculation → Prop where
  | whole : IsPartOf calculation calculation
  | negate :
      IsPartOf part operand →
      IsPartOf part (.negate operand)
  | left :
      IsPartOf part first →
      IsPartOf part (.binary operator first second)
  | right :
      IsPartOf part second →
      IsPartOf part (.binary operator first second)

/-- A part of a part is a part. -/
theorem IsPartOf.trans
    {part middle calculation : Calculation}
    (isMiddle : middle.IsPartOf calculation)
    (isPart : part.IsPartOf middle) :
    part.IsPartOf calculation := by
  induction isMiddle with
  | whole => exact isPart
  | negate _ inductionHypothesis => exact .negate inductionHypothesis
  | left _ inductionHypothesis => exact .left inductionHypothesis
  | right _ inductionHypothesis => exact .right inductionHypothesis

/-- A calculation divides by zero if some part does. -/
theorem IsPartOf.dividesByZero
    {part calculation : Calculation}
    (isPart : part.IsPartOf calculation)
    (divides : part.DividesByZero) :
    calculation.DividesByZero := by
  induction isPart with
  | whole => exact divides
  | negate _ inductionHypothesis => exact .negate inductionHypothesis
  | left _ inductionHypothesis => exact .left inductionHypothesis
  | right _ inductionHypothesis => exact .right inductionHypothesis

/-- A calculation divides by zero if some part of it is a division with a divisor
that is zero. -/
theorem dividesByZero_iff_exists_part (calculation : Calculation) :
    calculation.DividesByZero ↔
      ∃ dividend divisor zero,
        (binary .div dividend divisor).IsPartOf calculation ∧
          divisor.outcome = .value zero ∧ (zero == 0) = true := by
  constructor
  · intro divides
    induction divides with
    | divisor result isZero => exact ⟨_, _, _, .whole, result, isZero⟩
    | negate _ inductionHypothesis =>
        obtain ⟨_, _, _, isPart, isZero⟩ := inductionHypothesis
        exact ⟨_, _, _, .negate isPart, isZero⟩
    | left _ inductionHypothesis =>
        obtain ⟨_, _, _, isPart, isZero⟩ := inductionHypothesis
        exact ⟨_, _, _, .left isPart, isZero⟩
    | right _ inductionHypothesis =>
        obtain ⟨_, _, _, isPart, isZero⟩ := inductionHypothesis
        exact ⟨_, _, _, .right isPart, isZero⟩
  · rintro ⟨_, _, _, isPart, result, isZero⟩
    exact isPart.dividesByZero (.divisor result isZero)

end Calculation
end CalculatorTrials
