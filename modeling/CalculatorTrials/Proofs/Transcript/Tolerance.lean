import CalculatorTrials.Proofs.Binary64.Ratio
import CalculatorTrials.Proofs.Transcript.Comparison

/-!
# Results within a tolerance

Which results a comparison lets pass. Beside equal lines these are numbers that
are equal or whose ratio is within the tolerance, and numbers without a ratio:
something that is no number agrees with every number, and infinities agree
whatever their signs.
-/

namespace CalculatorTrials

/-- Two numbers are equal, or the distance of their ratio from one is at most the
tolerance. -/
def WithinTolerance (tolerance expected actual : Float) : Prop :=
  (expected == actual) = true ∨ (expected / actual - 1).abs ≤ tolerance

/-- Two numbers have no ratio, though they are not both zero. -/
def WithoutRatio (expected actual : Float) : Prop :=
  expected.isNaN = true ∨ actual.isNaN = true ∨
    (expected.isInf = true ∧ actual.isInf = true)

namespace Checker

/-- Numbers agree if they are within the tolerance or have no ratio. -/
theorem accepts_iff_withinTolerance
    {checker : Checker}
    (nonnegative : 0 ≤ checker.tolerance)
    (expected actual : Float) :
    checker.accepts expected actual = true ↔
      WithinTolerance checker.tolerance expected actual ∨
        WithoutRatio expected actual := by
  have isNumber : ¬checker.tolerance.isNaN = true :=
    Binary64.not_isNaN_of_le nonnegative
  rw [accepts_iff, WithinTolerance, WithoutRatio]
  change _ ∨ ¬checker.tolerance < (expected / actual - 1).abs ↔ _
  rw [Binary64.not_lt_iff, Binary64.isNaN_ratio_iff]
  constructor
  · rintro (same | within | noTolerance | noExpected | noActual | infinite |
      ⟨zero, otherZero⟩)
    · exact .inl (.inl same)
    · exact .inl (.inr within)
    · exact absurd noTolerance isNumber
    · exact .inr (.inl noExpected)
    · exact .inr (.inr (.inl noActual))
    · exact .inr (.inr (.inr infinite))
    -- Zeros have no ratio either, but they are equal.
    · exact .inl (.inl (Binary64.beq_of_zero zero otherZero))
  · rintro ((same | within) | noExpected | noActual | infinite)
    · exact .inl same
    · exact .inr (.inl within)
    · exact .inr (.inr (.inr (.inl noExpected)))
    · exact .inr (.inr (.inr (.inr (.inl noActual))))
    · exact .inr (.inr (.inr (.inr (.inr (.inl infinite)))))

/-- A pair of different lines that is compared is let pass if both lines carry
numbers that are within the tolerance or have no ratio. -/
theorem mismatch_not_mem_compare_iff
    (checker : Checker)
    {expected actual : List String}
    (sameLength : expected.length = actual.length)
    {index : Nat}
    (behind : checker.leading ≤ index)
    (inside : index < expected.length - checker.trailing)
    {expectedLine actualLine : String}
    (isExpected : expected[index]? = some expectedLine)
    (isActual : actual[index]? = some actualLine)
    (different : expectedLine ≠ actualLine) :
    .mismatch (index + 1) expectedLine actualLine ∉
        (checker.compare expected actual).diagnostics ↔
      checker.sameValue expectedLine actualLine = true := by
  rw [checker.mismatch_mem_compare_iff sameLength]
  constructor
  · intro absent
    by_contra rejects
    exact absent ⟨index, behind, inside, rfl, isExpected, isActual, different,
      Bool.eq_false_iff.mpr rejects⟩
  · rintro agrees ⟨_, _, _, _, _, _, _, rejects⟩
    rw [agrees] at rejects
    cases rejects

/-- Two lines have the same value if both carry numbers that agree. -/
theorem sameValue_iff
    (checker : Checker)
    (expected actual : String) :
    checker.sameValue expected actual = true ↔
      ∃ left right,
        Transcript.value? expected = some left ∧
          Transcript.value? actual = some right ∧
          checker.accepts left right = true := by
  rw [sameValue]
  cases Transcript.value? expected <;> cases Transcript.value? actual <;> simp

end Checker

/-- With a tolerance that is not negative, a pair of different lines that is
compared is let pass exactly if both lines carry numbers that are equal, or whose
ratio is within the tolerance, or that have no ratio as one of them is none or
both are infinite. -/
theorem not_reported_iff
    {checker : Checker}
    (nonnegative : 0 ≤ checker.tolerance)
    {expected actual : List String}
    (sameLength : expected.length = actual.length)
    {index : Nat}
    (behind : checker.leading ≤ index)
    (inside : index < expected.length - checker.trailing)
    {expectedLine actualLine : String}
    (isExpected : expected[index]? = some expectedLine)
    (isActual : actual[index]? = some actualLine)
    (different : expectedLine ≠ actualLine) :
    .mismatch (index + 1) expectedLine actualLine ∉
        (checker.compare expected actual).diagnostics ↔
      ∃ left right,
        Transcript.value? expectedLine = some left ∧
          Transcript.value? actualLine = some right ∧
          (WithinTolerance checker.tolerance left right ∨
            WithoutRatio left right) := by
  rw [checker.mismatch_not_mem_compare_iff sameLength behind inside isExpected
    isActual different, checker.sameValue_iff]
  simp only [Checker.accepts_iff_withinTolerance nonnegative]

/-- A transcript with one line that the default rules compare. -/
def Transcript.around (line : String) : List String :=
  [banner, line, "x", prompt, farewell]

/-- Two numbers that are apart, compared by the default rules. -/
theorem not_reported_iff_of_one_and_two :
    .mismatch 2 "> = 1" "> = 2" ∉
        (Checker.compare {} (Transcript.around "> = 1")
          (Transcript.around "> = 2")).diagnostics ↔
      ∃ left right,
        Transcript.value? "> = 1" = some left ∧
          Transcript.value? "> = 2" = some right ∧
          (WithinTolerance 1e-5 left right ∨ WithoutRatio left right) := by
  have nonnegative : 0 ≤ ({} : Checker).tolerance := by
    decide +kernel
  have different : "> = 1" ≠ "> = 2" := by
    simp
  have sameLength : (Transcript.around "> = 1").length =
      (Transcript.around "> = 2").length := rfl
  have inside : 1 < (Transcript.around "> = 1").length - 3 := by
    decide
  have isExpected : (Transcript.around "> = 1")[1]? = some "> = 1" := rfl
  have isActual : (Transcript.around "> = 2")[1]? = some "> = 2" := rfl
  exact not_reported_iff nonnegative sameLength (Nat.le_refl 1) inside
    isExpected isActual different

/-- Not all that is let pass is within the tolerance: infinities of different
signs agree. -/
theorem exists_not_reported_beyond_tolerance :
    ¬∀ (checker : Checker) (expected actual : List String) (index : Nat)
        (expectedLine actualLine : String),
      0 ≤ checker.tolerance →
      expected.length = actual.length →
      checker.leading ≤ index →
      index < expected.length - checker.trailing →
      expected[index]? = some expectedLine →
      actual[index]? = some actualLine →
      expectedLine ≠ actualLine →
      .mismatch (index + 1) expectedLine actualLine ∉
        (checker.compare expected actual).diagnostics →
      ∃ left right,
        Transcript.value? expectedLine = some left ∧
          Transcript.value? actualLine = some right ∧
          WithinTolerance checker.tolerance left right := by
  intro claimed
  have clean : Checker.compare {} (Transcript.around "> = inf")
      (Transcript.around "> = -inf") = ⟨1, []⟩ := by
    decide +kernel
  have isInfinity : Transcript.value? "> = inf" = some (1 / 0) := by
    decide +kernel
  have isOpposite : Transcript.value? "> = -inf" = some (-1 / 0) := by
    decide +kernel
  have beyond : ¬WithinTolerance 1e-5 (1 / 0) (-1 / 0) := by
    rw [WithinTolerance]
    decide +kernel
  have notReported : .mismatch 2 "> = inf" "> = -inf" ∉
      (Checker.compare {} (Transcript.around "> = inf")
        (Transcript.around "> = -inf")).diagnostics := by
    rw [clean]
    exact List.not_mem_nil
  obtain ⟨left, right, isLeft, isRight, within⟩ :=
    claimed {} (Transcript.around "> = inf") (Transcript.around "> = -inf") 1
      "> = inf" "> = -inf" (by decide +kernel) rfl (Nat.le_refl 1) (by decide)
      rfl rfl (by simp) notReported
  obtain rfl := Option.some.inj (isInfinity.symm.trans isLeft)
  obtain rfl := Option.some.inj (isOpposite.symm.trans isRight)
  exact beyond within

end CalculatorTrials
