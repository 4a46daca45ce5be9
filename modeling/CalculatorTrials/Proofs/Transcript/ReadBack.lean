import CalculatorTrials.Proofs.Evaluation
import CalculatorTrials.Proofs.Transcript.Comparison

/-!
# Numbers read back from their texts

The text of a finite number is an input that is evaluated to the number, and the
line of any number carries it. Only the sign of zero is lost, so two numbers have
the same line exactly if they are equal or both are none.
-/

namespace CalculatorTrials

open Grammar

namespace Binary64

/-- What is not a number is not finite. -/
theorem magnitude_le_of_isFinite
    {number : Float}
    (finite : number.isFinite = true) :
    magnitude number ≤ infinity := by
  by_contra above
  have notFinite : (ofMagnitude (infinity + 1)).isFinite = false := by
    decide +kernel
  rw [eq_notANumber (Nat.lt_of_not_le above), notFinite] at finite
  cases finite

/-- An infinite number is not finite. -/
theorem magnitude_ne_of_isFinite
    {number : Float}
    (finite : number.isFinite = true) :
    magnitude number ≠ infinity := by
  intro infinite
  have notFinite : (ofMagnitude infinity).isFinite = false ∧
      (-ofMagnitude infinity).isFinite = false := by
    decide +kernel
  rw [eq_ofMagnitude (Nat.le_of_eq infinite), infinite] at finite
  split at finite
  · rw [notFinite.2] at finite
    cases finite
  · rw [notFinite.1] at finite
    cases finite

/-- The text of a finite number is a line that says the number. -/
theorem Written.exists_meaning
    {number : Float}
    {text : List Char}
    (written : Written number text)
    (finite : number.isFinite = true) :
    ∃ calculation, Says text calculation ∧
      calculation.outcome = .value (unsignedZero number) := by
  have bounded := magnitude_le_of_isFinite finite
  cases written with
  | nan above => exact absurd bounded (Nat.not_le_of_lt above)
  | infinite infinite => exact absurd infinite (magnitude_ne_of_isFinite finite)
  | zero isZero =>
      obtain ⟨letters, text, isNumeral⟩ := exists_numeral_whole 0
      refine ⟨.number ⟨0, 0⟩, ?_, ?_⟩
      · have meaning := (Derives.numeral isNumeral).isLine
        rw [text] at meaning
        exact meaning
      · rw [unsignedZero, if_pos ((beq_zero_iff number).mpr isZero)]
        rfl
  | @numeral letters decimal nonzero _ isNumeral same =>
      have notZero : ¬(number == 0) = true := by
        rw [beq_zero_iff]
        omega
      have operand : Derives .operand letters (.number decimal) :=
        .numeral isNumeral
      have size : (Calculation.number decimal).outcome =
          .value (ofMagnitude (magnitude number)) := by
        rw [Calculation.outcome, Decimal.toFloat, same]
      have whole := eq_ofMagnitude bounded
      rw [unsignedZero, if_neg notZero, signText]
      split at whole
      · next negative =>
          have derives : Derives .operand (.minus :: ([] ++ letters))
              (.negate (.number decimal)) :=
            .minus rfl blanks_nil operand
          rw [if_pos negative]
          refine ⟨_, derives.isLine, ?_⟩
          rw [Calculation.outcome, size, Outcome.negate, ← whole]
      · next positive =>
          rw [if_neg positive]
          refine ⟨_, operand.isLine, ?_⟩
          rw [size, ← whole]

end Binary64

/-! ## Numbers without the sign of a zero -/

/-- There are two zeros. -/
theorem eq_zero_of_beq
    {number : Float}
    (isZero : (number == 0) = true) :
    number = 0 ∨ number = -0 := by
  obtain ⟨_, _, same | ⟨same, _⟩ | ⟨same, _⟩⟩ :=
    Float.beq_iff_ne_nan_and_eq.mp isZero
  · exact .inl same
  · exact .inl same
  · exact .inr same

/-- Only the sign of a zero is lost. -/
theorem toBits_unsignedZero (number : Float) :
    (unsignedZero number).toBits =
      if number.toBits = 0x8000000000000000 then 0 else number.toBits := by
  have negativeBits : (-0 : Float).toBits = 0x8000000000000000 := by
    decide +kernel
  have positiveBits : (0 : Float).toBits = 0 := by
    decide +kernel
  rw [unsignedZero]
  split
  · next isZero =>
      rcases eq_zero_of_beq isZero with rfl | rfl
      · simp [positiveBits]
      · simp [positiveBits, negativeBits]
  · next notZero =>
      rw [if_neg]
      intro same
      obtain rfl := Float.toBits_inj.mp (same.trans negativeBits.symm)
      exact notZero rfl

/-- A number equals what is left of it without the sign of a zero. -/
theorem beq_unsignedZero
    {number : Float}
    (isNumber : number ≠ Float.nan) :
    (number == unsignedZero number) = true := by
  rw [unsignedZero]
  split
  · next isZero => exact isZero
  · exact Float.beq_self_iff.mpr isNumber

/-- What is no number stays none. -/
theorem unsignedZero_eq_nan_iff (number : Float) :
    unsignedZero number = Float.nan ↔ number = Float.nan := by
  rw [unsignedZero]
  split
  · next isZero =>
      have isNumber := (Float.beq_iff_ne_nan_and_eq.mp isZero).1
      refine iff_of_false ?_ isNumber
      decide +kernel
  · rfl

/-! ## Lines of numbers -/

/-- Two numbers have the same line if they are equal or both are none. -/
theorem line_eq_line_iff (first second : Float) :
    (Outcome.value first).line = (Outcome.value second).line ↔
      (first == second) = true ∨
        first.isNaN = true ∧ second.isNaN = true := by
  simp only [Float.isNaN_eq_decide_eq_nan, decide_eq_true_iff]
  constructor
  · intro sameLine
    have same : unsignedZero first = unsignedZero second := by
      apply Option.some.inj
      exact (Transcript.value?_line first).symm.trans
        ((congrArg Transcript.value? sameLine).trans
          (Transcript.value?_line second))
    have bothNone : first = Float.nan ↔ second = Float.nan := by
      rw [← unsignedZero_eq_nan_iff, same, unsignedZero_eq_nan_iff]
    by_cases isNone : first = Float.nan
    · exact .inr ⟨isNone, bothNone.mp isNone⟩
    · left
      have equal := beq_unsignedZero isNone
      rw [same] at equal
      apply PartialEquivBEq.trans equal
      apply PartialEquivBEq.symm
      exact beq_unsignedZero (mt bothNone.mpr isNone)
  · rintro (equal | ⟨rfl, rfl⟩)
    · have zeros : (Outcome.value 0).line = (Outcome.value (-0)).line := by
        decide +kernel
      obtain ⟨_, _, rfl | ⟨rfl, rfl⟩ | ⟨rfl, rfl⟩⟩ :=
        Float.beq_iff_ne_nan_and_eq.mp equal
      · rfl
      · exact zeros
      · exact zeros.symm
    · rfl

/-- The text of a finite number is evaluated to the number, but for the sign of
zero. -/
theorem evaluate_valueText
    {number : Float}
    (finite : number.isFinite = true) :
    evaluate (valueText number) = .ok (.value (unsignedZero number)) := by
  obtain ⟨calculation, meaning, outcome⟩ :=
    (Binary64.written_text number).exists_meaning finite
  rw [valueText, evaluate_of_meaning meaning, outcome]

/-- A number that is not finite is not zero. -/
theorem unsignedZero_of_not_isFinite
    {number : Float}
    (notFinite : number.isFinite = false) :
    unsignedZero number = number := by
  rw [unsignedZero, if_neg]
  intro isZero
  rcases eq_zero_of_beq isZero with rfl | rfl
  · cases notFinite
  · cases notFinite

/-- The text of a finite number is evaluated to the number, and its line carries
the number, bit by bit but for the sign of zero. The lines of other numbers carry
these as they are. No line of a number tells of a division by zero, and the lines
of two numbers are the same exactly if the numbers are equal or both are none. -/
theorem line_reads_back (number : Float) :
    (number.isFinite = true →
      ∃ back,
        evaluate (valueText number) = .ok (.value back) ∧
          Transcript.value? (Outcome.value number).line = some back ∧
          back.toBits =
            if number.toBits = 0x8000000000000000 then 0
            else number.toBits) ∧
    (number.isFinite = false →
      Transcript.value? (Outcome.value number).line = some number) ∧
    (Outcome.value number).line ≠ Outcome.divisionByZero.line ∧
    ∀ other : Float,
      (Outcome.value number).line = (Outcome.value other).line ↔
        (number == other) = true ∨
          number.isNaN = true ∧ other.isNaN = true := by
  have carried : Transcript.value? (Outcome.value number).line =
      some (unsignedZero number) :=
    Transcript.value?_line number
  refine ⟨fun finite => ⟨unsignedZero number, evaluate_valueText finite, carried,
    toBits_unsignedZero number⟩, ?_, ?_, line_eq_line_iff number⟩
  · intro notFinite
    rw [carried, unsignedZero_of_not_isFinite notFinite]
  · intro sameLine
    have noNumber : Transcript.value? Outcome.divisionByZero.line = none :=
      Transcript.value?_divisionByZero
    rw [sameLine, noNumber] at carried
    cases carried

end CalculatorTrials
