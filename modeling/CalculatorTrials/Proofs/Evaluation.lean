import CalculatorTrials.Proofs.Grammar.Outcome
import CalculatorTrials.Proofs.Grammar.Part
import CalculatorTrials.Proofs.Numeral.Value
import CalculatorTrials.Proofs.Reader.Answer
import CalculatorTrials.Proofs.Text.Blank
import CalculatorTrials.Transcript.Expectation

/-!
# Evaluation of an input

An input has an outcome exactly if its line belongs to the grammar, and then it
is what the line yields by the rules of the grammar and of arithmetic, which is
the outcome of the calculation that the line says. It is a division by zero
exactly if some divisor in the line, evaluated by itself, is zero. Every other
input is refused, at the end of the longest start that some line has and with the
terminals that may follow it.
-/

namespace CalculatorTrials

open Grammar

/-- An input is evaluated by reading its line. -/
theorem evaluate_eq (input : String) :
    evaluate input =
      match Calculation.read (Text.dropTerminators input.toList) with
      | .ok calculation => .ok calculation.outcome
      | .error reason =>
          .error (.expression 1
            (String.ofList (Text.dropTerminators input.toList)) reason) := rfl

/-- An input has an outcome if its line says a calculation with it. -/
theorem evaluate_eq_ok_iff (input : String) (outcome : Outcome) :
    evaluate input = .ok outcome ↔
      ∃ calculation,
        Says (Text.dropTerminators input.toList) calculation ∧
          calculation.outcome = outcome := by
  simp only [← Calculation.read_eq_ok_iff]
  rw [evaluate_eq]
  cases answer : Calculation.read (Text.dropTerminators input.toList) with
  | ok calculation =>
      constructor
      · intro same
        exact ⟨calculation, rfl, Except.ok.inj same⟩
      · rintro ⟨other, same, rfl⟩
        rw [Except.ok.inj same]
  | error reason =>
      constructor
      · intro impossible
        cases impossible
      · rintro ⟨_, impossible, _⟩
        cases impossible

/-- An input is refused if its line says no calculation. -/
theorem exists_refusal_iff (input : String) :
    (∃ reason, evaluate input =
        .error (.expression 1
          (String.ofList (Text.dropTerminators input.toList)) reason)) ↔
      ¬∃ calculation,
        Says (Text.dropTerminators input.toList) calculation := by
  simp only [← Calculation.read_eq_ok_iff]
  rw [evaluate_eq]
  cases Calculation.read (Text.dropTerminators input.toList) with
  | ok calculation =>
      constructor
      · rintro ⟨_, impossible⟩
        cases impossible
      · intro meaningless
        exact absurd ⟨calculation, rfl⟩ meaningless
  | error reason =>
      constructor
      · rintro _ ⟨_, impossible⟩
        cases impossible
      · intro _
        exact ⟨reason, rfl⟩

/-- An input has the outcome that its line yields. -/
theorem evaluate_eq_ok_iff_lineYields (input : String) (outcome : Outcome) :
    evaluate input = .ok outcome ↔
      LineYields (Text.dropTerminators input.toList) outcome :=
  (evaluate_eq_ok_iff input outcome).trans (lineYields_iff _ outcome).symm

/-- A line yields an outcome exactly if it says a calculation. -/
theorem exists_lineYields_iff (line : List Char) :
    (∃ outcome, LineYields line outcome) ↔
      ∃ calculation, Says line calculation := by
  constructor
  · rintro ⟨outcome, yields⟩
    obtain ⟨calculation, meaning, _⟩ := (lineYields_iff line outcome).mp yields
    exact ⟨calculation, meaning⟩
  · rintro ⟨calculation, meaning⟩
    exact ⟨calculation.outcome,
      (lineYields_iff line _).mpr ⟨calculation, meaning, rfl⟩⟩

/-- An input has just the outcome that its line yields by the rules of the grammar
and of arithmetic, and it is refused if there is none. A line yields one outcome
at most, that of the one calculation that it says. Every numeral is the text of
its number, and a calculation divides by zero if some divisor in it is zero. -/
theorem evaluate_eq_iff_yields (input : String) :
    let line := Text.dropTerminators input.toList
    (∀ outcome, evaluate input = .ok outcome ↔ LineYields line outcome) ∧
    ((∃ reason, evaluate input =
        .error (.expression 1 (String.ofList line) reason)) ↔
      ¬∃ outcome, LineYields line outcome) ∧
    (∀ first second, LineYields line first → LineYields line second →
      first = second) ∧
    (∀ outcome, LineYields line outcome ↔
      ∃ calculation, Says line calculation ∧ calculation.outcome = outcome) ∧
    (∀ first second, Says line first → Says line second → first = second) ∧
    (∀ letters number, Grammar.Numeral letters number →
      Binary64.parse? (characters letters) = some number.toFloat) ∧
    ∀ calculation : Calculation,
      calculation.outcome = .divisionByZero ↔ calculation.DividesByZero := by
  intro line
  refine ⟨evaluate_eq_ok_iff_lineYields input, ?_, ?_, lineYields_iff line, ?_,
    ?_, Calculation.outcome_eq_divisionByZero_iff⟩
  · rw [exists_lineYields_iff]
    exact exists_refusal_iff input
  · intro first second yields others
    rw [← evaluate_eq_ok_iff_lineYields] at yields others
    exact Except.ok.inj (yields.symm.trans others)
  · intro first second meaning other
    exact meaning.unique other
  · intro letters number isNumeral
    exact Binary64.parse?_of_numeral isNumeral

-- chains go from the left, and a sign in front of a group is an operand
example : evaluate "2-3-4*-(1+1)\n" = .ok (.value 7) := by
  decide +kernel

/-- A refused input is refused in its first line, behind the longest start that
some line of the grammar has, and what is expected there is what may follow that
start. -/
theorem refusal_of_evaluate_eq_error
    {input : String}
    {failure : Failure}
    (refused : evaluate input = .error failure) :
    let line := Text.dropTerminators input.toList
    ∃ start expected,
      LongestViable start line ∧
        failure = .expression 1 (String.ofList line)
          ⟨⟨1, start.length + 1⟩, expected⟩ ∧
        expected.Sublist Terminal.all ∧
        ∀ terminal, terminal ∈ expected ↔ MayFollow start terminal := by
  intro line
  rw [evaluate_eq] at refused
  cases answer : Calculation.read line with
  | ok calculation =>
      rw [answer] at refused
      cases refused
  | error reason =>
      rw [answer] at refused
      obtain ⟨start, expected, longest, rfl, inOrder, follows⟩ :=
        Calculation.exists_of_read_eq_error answer
      exact ⟨start, expected, longest, (Except.error.inj refused).symm, inOrder,
        follows⟩

/-- The operand that is missing at the end of `12+`. -/
theorem refusal_of_missing_operand :
    ∃ start expected,
      LongestViable start ['1', '2', '+'] ∧
        Failure.expression 1 "12+"
            ⟨⟨1, 4⟩, [.openGroup, .plus, .minus, .point, .blank, .digit]⟩ =
          .expression 1 "12+" ⟨⟨1, start.length + 1⟩, expected⟩ ∧
        expected.Sublist Terminal.all ∧
        ∀ terminal, terminal ∈ expected ↔ MayFollow start terminal := by
  have refused : evaluate "12+" = .error (.expression 1 "12+"
      ⟨⟨1, 4⟩, [.openGroup, .plus, .minus, .point, .blank, .digit]⟩) := rfl
  exact refusal_of_evaluate_eq_error refused

/-! ## Divisions by zero -/

/-- A line has no terminators at its end. -/
theorem dropTerminators_of_says
    {line : List Char}
    {calculation : Calculation}
    (meaning : Says line calculation) :
    Text.dropTerminators line = line := by
  obtain ⟨letters, _, rfl⟩ := meaning
  apply Text.dropEnd_eq_self
  intro character member
  obtain ⟨letter, _, rfl⟩ := List.mem_map.mp member
  simpa using letter.character_ne_terminator

/-- A line is evaluated to the outcome of what it says. -/
theorem evaluate_of_meaning
    {line : List Char}
    {calculation : Calculation}
    (meaning : Says line calculation) :
    evaluate (String.ofList line) = .ok calculation.outcome := by
  rw [evaluate_eq_ok_iff, String.toList_ofList, dropTerminators_of_says meaning]
  exact ⟨calculation, meaning, rfl⟩

/-- What is left of an input without its terminators is evaluated as the
input. -/
theorem evaluate_eq_ok_outcome
    {input : String}
    {calculation : Calculation}
    (meaning : Says (Text.dropTerminators input.toList) calculation) :
    evaluate input = .ok calculation.outcome :=
  (evaluate_eq_ok_iff input _).mpr ⟨calculation, meaning, rfl⟩

/-- A line divides by zero exactly if it has a division in it, wherever that
stands, whose divisor is evaluated to zero by itself. What is no line is refused,
whatever divisions there are in it. -/
theorem evaluate_eq_divisionByZero_iff (input : String) :
    let line := Text.dropTerminators input.toList
    (∀ calculation, Says line calculation →
      (∃ outcome, evaluate input = .ok outcome) ∧
      (evaluate input = .ok .divisionByZero ↔
        ∃ dividend divisor text zero,
          (Calculation.binary .div dividend divisor).IsPartOf calculation ∧
            text <:+: line ∧ Says text divisor ∧
            evaluate (String.ofList text) = .ok (.value zero) ∧
            (zero == 0) = true)) ∧
    ((¬∃ calculation, Says line calculation) →
      ∃ reason, evaluate input =
        .error (.expression 1 (String.ofList line) reason)) := by
  intro line
  refine ⟨fun calculation meaning => ⟨⟨_, evaluate_eq_ok_outcome meaning⟩, ?_⟩,
    (exists_refusal_iff input).mpr⟩
  rw [evaluate_eq_ok_outcome meaning, Except.ok.injEq,
    calculation.outcome_eq_divisionByZero_iff,
    calculation.dividesByZero_iff_exists_part]
  constructor
  · rintro ⟨dividend, divisor, zero, isPart, result, isZero⟩
    -- The divisor is a part of the division, and so of the line.
    obtain ⟨text, within, divisorMeaning⟩ :=
      meaning.exists_infix (isPart.trans (.right .whole))
    refine ⟨dividend, divisor, text, zero, isPart, within, divisorMeaning, ?_,
      isZero⟩
    rw [evaluate_of_meaning divisorMeaning, result]
  · rintro ⟨dividend, divisor, text, zero, isPart, _, divisorMeaning, evaluates,
      isZero⟩
    rw [evaluate_of_meaning divisorMeaning] at evaluates
    exact ⟨dividend, divisor, zero, isPart, Except.ok.inj evaluates, isZero⟩

/-- A divisor that cancels exactly, and the same division in front of a missing
operand. -/
theorem evaluate_eq_divisionByZero_of_cancellation :
    evaluate "8/(2-2)" = .ok .divisionByZero ∧
      ∃ reason, evaluate "8/(2-2)+" =
        .error (.expression 1 "8/(2-2)+" reason) := by
  let divisor : Calculation :=
    .binary .sub (.number ⟨2, 0⟩) (.number ⟨2, 0⟩)
  let quotient : Calculation := .binary .div (.number ⟨8, 0⟩) divisor
  have meaning : Says "8/(2-2)".toList quotient :=
    (Calculation.read_eq_ok_iff _ _).mp rfl
  have divisorMeaning : Says "(2-2)".toList divisor :=
    (Calculation.read_eq_ok_iff _ _).mp rfl
  have cancels : divisor.outcome = .value 0 := by
    decide +kernel
  constructor
  · refine (((evaluate_eq_divisionByZero_iff "8/(2-2)").1 quotient meaning).2).mpr
      ⟨_, divisor, "(2-2)".toList, 0, .whole, ⟨"8/".toList, [], rfl⟩,
        divisorMeaning, cancels ▸ evaluate_of_meaning divisorMeaning, rfl⟩
  · apply (evaluate_eq_divisionByZero_iff "8/(2-2)+").2
    rintro ⟨calculation, impossible⟩
    cases (Calculation.read_eq_ok_iff _ _).mpr impossible

end CalculatorTrials
