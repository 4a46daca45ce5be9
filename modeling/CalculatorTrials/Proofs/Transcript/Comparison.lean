import CalculatorTrials.Proofs.Transcript.Value
import CalculatorTrials.Transcript.Expectation

/-!
# Comparing with an expected transcript

An expected transcript has its frame in place and a line for each input, and
nothing that a comparison needs is lost in it: two lines are told apart exactly
if their texts differ and no number that the actual line carries agrees with the
very number that the input is evaluated to.
-/

namespace CalculatorTrials

/-! ## Outcomes of the inputs -/

/-- The number of a line makes no difference to the outcome. -/
theorem evaluateLine_eq_ok_iff
    (line : Nat)
    (input : String)
    (outcome : Outcome) :
    evaluateLine line input = .ok outcome ↔ evaluate input = .ok outcome := by
  simp only [evaluate, evaluateLine]
  cases Calculation.read (Text.dropTerminators input.toList) with
  | ok calculation => rfl
  | error reason => exact iff_of_false nofun nofun

namespace Expectation

/-- The outcomes of inputs are that of the first one and those of the others. -/
theorem outcomes_cons_eq_ok_iff
    (line : Nat)
    (input : String)
    (inputs : List String)
    (results : List Outcome) :
    (outcomes line (input :: inputs)).2 = .ok results ↔
      ∃ outcome others,
        results = outcome :: others ∧
          evaluateLine line input = .ok outcome ∧
          (outcomes (line + 1) inputs).2 = .ok others := by
  rw [outcomes]
  cases evaluateLine line input with
  | error failure => simp
  | ok outcome =>
      cases rest : (outcomes (line + 1) inputs).2 with
      | error failure => simp [rest, Except.map]
      | ok others => simp [rest, Except.map, eq_comm]

/-- Inputs have outcomes from a line on if these are the outcomes of each of
them. -/
theorem outcomes_eq_ok_iff
    (line : Nat)
    (inputs : List String)
    (results : List Outcome) :
    (outcomes line inputs).2 = .ok results ↔
      inputs.map evaluate = results.map .ok := by
  induction inputs generalizing line results with
  | nil => simp [outcomes, eq_comm]
  | cons input inputs inductionHypothesis =>
      simp only [outcomes_cons_eq_ok_iff, evaluateLine_eq_ok_iff,
        inductionHypothesis]
      cases results with
      | nil => simp
      | cons outcome others => simp

end Expectation

/-- Inputs have an expected transcript if all of them have outcomes, and it frames
these. -/
theorem expectations_eq_ok_iff
    (inputs expected : List String) :
    (expectations inputs).2 = .ok expected ↔
      ∃ results,
        expected = Expectation.frame results ∧
          inputs.map evaluate = results.map .ok := by
  simp only [← Expectation.outcomes_eq_ok_iff 1]
  cases evaluates : (Expectation.outcomes 1 inputs).2 with
  | error failure => simp [expectations, evaluates, Except.map]
  | ok results => simp [expectations, evaluates, Except.map, eq_comm]

/-! ## What a comparison reports -/

namespace Checker

/-- Two lines are told apart if neither their texts nor their numbers agree. -/
def Rejects (checker : Checker) (expected actual : String) : Prop :=
  expected ≠ actual ∧ checker.sameValue expected actual = false

/-- The results that are compared are told apart one by one. -/
theorem mem_checkResults_iff
    (checker : Checker)
    (number : Nat)
    (pairs : List (String × String))
    (diagnostic : Diagnostic) :
    diagnostic ∈ checker.checkResults number pairs ↔
      ∃ index expected actual,
        pairs[index]? = some (expected, actual) ∧
          diagnostic = .mismatch (number + index) expected actual ∧
          checker.Rejects expected actual := by
  induction pairs generalizing number with
  | nil => simp [checkResults]
  | cons pair pairs inductionHypothesis =>
      obtain ⟨expected, actual⟩ := pair
      have later := inductionHypothesis (number + 1)
      have shifted :
          diagnostic ∈ checker.checkResults (number + 1) pairs ↔
            ∃ index first second,
              ((expected, actual) :: pairs)[index + 1]? =
                  some (first, second) ∧
                diagnostic = .mismatch (number + (index + 1)) first second ∧
                checker.Rejects first second := by
        simpa [Nat.add_assoc, Nat.add_comm 1] using later
      simp only [checkResults]
      split
      · next agrees =>
          rw [shifted]
          constructor
          · rintro ⟨index, found⟩
            exact ⟨index + 1, found⟩
          · rintro ⟨index, first, second, found, same, rejects⟩
            cases index with
            | zero =>
                obtain ⟨rfl, rfl⟩ := Prod.mk.inj (Option.some.inj found)
                rcases agrees with sameText | sameNumber
                · exact absurd sameText rejects.1
                · rw [rejects.2] at sameNumber
                  cases sameNumber
            | succ index => exact ⟨index, first, second, found, same, rejects⟩
      · next disagrees =>
          obtain ⟨otherText, otherNumber⟩ := not_or.mp disagrees
          rw [List.mem_cons, shifted]
          constructor
          · rintro (rfl | ⟨index, found⟩)
            · exact ⟨0, expected, actual, rfl, rfl, otherText,
                Bool.eq_false_iff.mpr otherNumber⟩
            · exact ⟨index + 1, found⟩
          · rintro ⟨index, first, second, found, same, rejects⟩
            cases index with
            | zero =>
                obtain ⟨rfl, rfl⟩ := Prod.mk.inj (Option.some.inj found)
                exact .inl same
            | succ index =>
                exact .inr ⟨index, first, second, found, same, rejects⟩

/-- The check of a frame tells of nothing but the frame of its side. -/
theorem exists_of_mem_checkFrame
    {side : Side}
    {lines : List String}
    {diagnostic : Diagnostic}
    (member : diagnostic ∈ checkFrame side lines) :
    ∃ line wanted found, diagnostic = .framing side line wanted found := by
  have ofLine {number : Nat} {wanted line : String}
      (among : diagnostic ∈ checkFrameLine side number wanted line) :
      ∃ line wanted found, diagnostic = .framing side line wanted found := by
    rw [checkFrameLine] at among
    split at among
    · cases among
    · exact ⟨_, _, _, List.mem_singleton.mp among⟩
  cases lines with
  | nil => cases member
  | cons first rest =>
      rw [checkFrame, List.mem_append] at member
      rcases member with banner | farewell
      · exact ofLine banner
      · exact ofLine farewell

/-- The frame of an expected transcript is in place. -/
theorem checkFrame_frame (side : Side) (results : List Outcome) :
    checkFrame side (Expectation.frame results) = [] := by
  have banner : Text.trimEnd Transcript.banner.toList =
      Transcript.banner.toList := by
    rfl
  have farewell : Text.trimEnd Transcript.farewell.toList =
      Transcript.farewell.toList := by
    rfl
  have last :
      (results.map Outcome.line ++
        [Transcript.prompt, Transcript.farewell]).getLastD Transcript.banner =
          Transcript.farewell := by
    simp [List.getLastD_eq_getLast?]
  rw [Expectation.frame, checkFrame, last]
  simp [checkFrameLine, banner, farewell]

/-- The pairs of lines that a comparison looks at: those behind the lines left
out at the start and in front of those left out at the end. -/
theorem getElem?_window
    (checker : Checker)
    {expected actual : List String}
    (index : Nat)
    (first second : String) :
    let finish := expected.length - checker.trailing
    (((expected.zip actual).take finish).drop (min checker.leading finish))[
          index]? =
        some (first, second) ↔
      min checker.leading finish + index < finish ∧
        expected[min checker.leading finish + index]? = some first ∧
        actual[min checker.leading finish + index]? = some second := by
  intro finish
  rw [List.getElem?_drop, List.getElem?_take]
  split
  · next inside =>
      rw [List.getElem?_zip_eq_some]
      exact (and_iff_right inside).symm
  · next outside =>
      constructor
      · intro impossible
        cases impossible
      · rintro ⟨inside, _⟩
        exact absurd inside outside

/-- All lines that are not left out are compared. -/
theorem compared_compare
    (checker : Checker)
    {expected actual : List String}
    (sameLength : expected.length = actual.length) :
    (checker.compare expected actual).compared =
      expected.length - checker.trailing - checker.leading := by
  rw [compare, if_neg (not_not_intro sameLength)]
  simp only [List.length_drop, List.length_take, List.length_zip, sameLength]
  omega

/-- A mismatch is reported for every line that is compared and told apart, and
for no other one. -/
theorem mismatch_mem_compare_iff
    (checker : Checker)
    {expected actual : List String}
    (sameLength : expected.length = actual.length)
    (line : Nat)
    (first second : String) :
    .mismatch line first second ∈
        (checker.compare expected actual).diagnostics ↔
      ∃ index,
        checker.leading ≤ index ∧
          index < expected.length - checker.trailing ∧ line = index + 1 ∧
          expected[index]? = some first ∧ actual[index]? = some second ∧
          checker.Rejects first second := by
  have notFraming {side : Side} {lines : List String} :
      .mismatch line first second ∉ checkFrame side lines := by
    intro member
    obtain ⟨_, _, _, impossible⟩ := exists_of_mem_checkFrame member
    cases impossible
  rw [compare, if_neg (not_not_intro sameLength), List.mem_append,
    List.mem_append, or_iff_right (not_or.mpr ⟨notFraming, notFraming⟩),
    mem_checkResults_iff]
  constructor
  · rintro ⟨index, _, _, found, same, rejects⟩
    cases same
    obtain ⟨inside, isExpected, isActual⟩ :=
      (checker.getElem?_window _ _ _).mp found
    exact ⟨_, by omega, inside, by omega, isExpected, isActual, rejects⟩
  · rintro ⟨index, behind, inside, rfl, isExpected, isActual, rejects⟩
    obtain ⟨offset, rfl⟩ := Nat.exists_eq_add_of_le
      (Nat.le_trans (Nat.min_le_left _ (expected.length - checker.trailing))
        behind)
    refine ⟨offset, first, second, ?_, ?_, rejects⟩
    · exact (checker.getElem?_window _ _ _).mpr ⟨inside, isExpected, isActual⟩
    · congr 1
      omega

/-- If the frame of a side is in place, no comparison finds it wrong. -/
theorem framing_not_mem_compare
    (checker : Checker)
    {expected actual : List String}
    (inPlace : checkFrame .expected expected = [])
    (line : Nat)
    (wanted found : String) :
    .framing .expected line wanted found ∉
      (checker.compare expected actual).diagnostics := by
  intro member
  rw [compare] at member
  split at member
  · cases List.mem_singleton.mp member
  · rw [inPlace, List.nil_append, List.mem_append] at member
    rcases member with inFrame | inResults
    · obtain ⟨_, _, _, impossible⟩ := exists_of_mem_checkFrame inFrame
      cases impossible
    · obtain ⟨_, _, _, _, impossible, _⟩ :=
        (checker.mem_checkResults_iff _ _ _).mp inResults
      cases impossible

/-- Two numbers agree if they are equal or their ratio is not too far from
one. -/
theorem accepts_iff
    (checker : Checker)
    (expected actual : Float) :
    checker.accepts expected actual = true ↔
      (expected == actual) = true ∨
        ¬(expected / actual - 1).abs > checker.tolerance := by
  simp [accepts]

end Checker

/-! ## Verdicts on the inputs -/

/-- A number as transcripts tell it, without the sign of a zero. -/
def unsignedZero (number : Float) : Float :=
  if number == 0 then 0 else number

/-- The line of an input is told apart from the expected one: it has another
text, and the input divides by zero, or the line carries no number, or it
carries one that does not agree with the number of the input. -/
def ToldApart (tolerance : Float) (input expected actual : String) : Prop :=
  actual ≠ expected ∧
    (evaluate input = .ok .divisionByZero ∨
      Transcript.value? actual = none ∨
      ∃ value number,
        evaluate input = .ok (.value value) ∧
          Transcript.value? actual = some number ∧
          ¬((unsignedZero value == number) = true ∨
            ¬(unsignedZero value / number - 1).abs > tolerance))

/-- A comparison with the expected transcript finds its frame in place, compares
the lines of a number of inputs from the first one on, and reports exactly those
that are told apart. -/
structure Verdicts
    (checker : Checker)
    (count : Nat)
    (inputs expected actual : List String) : Prop where
  framed : ∀ line wanted found,
    .framing .expected line wanted found ∉
      (checker.compare expected actual).diagnostics
  compared : (checker.compare expected actual).compared = count
  mismatch_iff : ∀ line expectedLine actualLine,
    .mismatch line expectedLine actualLine ∈
        (checker.compare expected actual).diagnostics ↔
      ∃ index input,
        index < count ∧ line = index + 2 ∧
          inputs[index]? = some input ∧
          expected[index + 1]? = some expectedLine ∧
          actual[index + 1]? = some actualLine ∧
          ToldApart checker.tolerance input expectedLine actualLine

/-- The line of an outcome is told apart as its input is. -/
theorem Checker.rejects_line_iff
    (checker : Checker)
    {input : String}
    {outcome : Outcome}
    (evaluates : evaluate input = .ok outcome)
    (actual : String) :
    checker.Rejects outcome.line actual ↔
      ToldApart checker.tolerance input outcome.line actual := by
  rw [Rejects, ToldApart, ne_comm, evaluates]
  apply and_congr_right
  intro _
  cases outcome with
  | divisionByZero =>
      have noNumber : Transcript.value? (Outcome.line .divisionByZero) = none :=
        Transcript.value?_divisionByZero
      simp [sameValue, noNumber]
  | value value =>
      have number : Transcript.value? (Outcome.value value).line =
          some (unsignedZero value) :=
        Transcript.value?_line value
      rw [sameValue, number]
      cases carried : Transcript.value? actual with
      | none => simp
      | some other =>
          have rule := checker.accepts_iff (unsignedZero value) other
          change checker.accepts (unsignedZero value) other = false ↔ _
          rw [← Bool.not_eq_true, rule]
          constructor
          · intro disagrees
            exact .inr (.inr ⟨value, other, rfl, rfl, disagrees⟩)
          · rintro (impossible | impossible | ⟨_, _, same, sameOther, disagrees⟩)
            · cases impossible
            · cases impossible
            · cases same
              cases sameOther
              exact disagrees

/-- Behind the banner, an expected transcript has the line of each outcome. -/
theorem exists_line_of_input
    {inputs : List String}
    {results : List Outcome}
    (evaluates : inputs.map evaluate = results.map .ok)
    {index : Nat}
    {input : String}
    (isInput : inputs[index]? = some input) :
    ∃ outcome, evaluate input = .ok outcome ∧
      (Expectation.frame results)[index + 1]? = some outcome.line := by
  have mapped := congrArg (·[index]?) evaluates
  simp only [List.getElem?_map, isInput, Option.map_some] at mapped
  obtain ⟨outcome, isOutcome, same⟩ := Option.map_eq_some_iff.mp mapped.symm
  refine ⟨outcome, same.symm, ?_⟩
  have inRange : index < (results.map Outcome.line).length := by
    rw [List.length_map]
    exact (List.getElem?_eq_some_iff.mp isOutcome).1
  rw [Expectation.frame, List.getElem?_cons_succ,
    List.getElem?_append_left inRange, List.getElem?_map, isOutcome,
    Option.map_some]

/-- A comparison that leaves out the banner, and at least the prompt and the
farewell, takes a verdict on every input whose line is not left out. -/
theorem Checker.verdicts
    {inputs expected actual : List String}
    (accepted : (expectations inputs).2 = .ok expected)
    (sameLength : actual.length = inputs.length + 3)
    (tolerance : Float)
    {trailing : Nat}
    (atLeast : 2 ≤ trailing) :
    Verdicts ⟨tolerance, 1, trailing⟩ (inputs.length + 2 - trailing) inputs
      expected actual := by
  obtain ⟨results, rfl, evaluates⟩ := (expectations_eq_ok_iff ..).mp accepted
  have expectedLength :
      (Expectation.frame results).length = inputs.length + 3 := by
    have sameCount : inputs.length = results.length := by
      simpa using congrArg List.length evaluates
    simp [Expectation.frame, sameCount]
  have sameLengths : (Expectation.frame results).length = actual.length :=
    expectedLength.trans sameLength.symm
  let checker : Checker := ⟨tolerance, 1, trailing⟩
  refine ⟨?_, ?_, ?_⟩
  · exact framing_not_mem_compare _ (checkFrame_frame .expected results)
  · rw [compared_compare _ sameLengths, expectedLength]
    dsimp only
    omega
  · intro line expectedLine actualLine
    rw [mismatch_mem_compare_iff _ sameLengths, expectedLength]
    dsimp only
    constructor
    · rintro ⟨index, behind, inside, rfl, isExpected, isActual, rejects⟩
      obtain ⟨place, rfl⟩ := Nat.exists_eq_add_of_le' behind
      have inRange : place < inputs.length := by
        omega
      have isInput : inputs[place]? = some inputs[place] :=
        List.getElem?_eq_getElem inRange
      obtain ⟨outcome, isOutcome, isLine⟩ :=
        exists_line_of_input evaluates isInput
      obtain rfl : outcome.line = expectedLine :=
        Option.some.inj (isLine.symm.trans isExpected)
      exact ⟨place, inputs[place], by omega, rfl, isInput, isExpected, isActual,
        (rejects_line_iff checker isOutcome actualLine).mp rejects⟩
    · rintro ⟨place, input, inRange, rfl, isInput, isExpected, isActual, apart⟩
      obtain ⟨outcome, isOutcome, isLine⟩ :=
        exists_line_of_input evaluates isInput
      obtain rfl : outcome.line = expectedLine :=
        Option.some.inj (isLine.symm.trans isExpected)
      exact ⟨place + 1, Nat.le_add_left 1 place, by omega, rfl, isExpected,
        isActual, (rejects_line_iff checker isOutcome actualLine).mpr apart⟩

/-- The expected transcript keeps all that a comparison needs. With two lines
left out at its end every input has a verdict, and with the three that are left
out by default every input but the last. -/
theorem verdicts_of_expectations_eq_ok
    {inputs expected actual : List String}
    (accepted : (expectations inputs).2 = .ok expected)
    (sameLength : actual.length = inputs.length + 3)
    (tolerance : Float) :
    Verdicts { tolerance := tolerance, leading := 1, trailing := 2 }
        inputs.length inputs expected actual ∧
      Verdicts { tolerance := tolerance } (inputs.length - 1) inputs expected
        actual := by
  constructor
  · exact Checker.verdicts accepted sameLength tolerance (Nat.le_refl 2)
  · exact Checker.verdicts accepted sameLength tolerance (Nat.le_succ 2)

/-- The verdicts on a number and on a division by zero. -/
theorem verdicts_of_two_inputs :
    Verdicts { tolerance := 1e-5, leading := 1, trailing := 2 } 2
        ["7", "1/0"]
        [Transcript.banner, "> = 7", Transcript.divisionByZero,
          Transcript.prompt, Transcript.farewell]
        [Transcript.banner, "> = 8", Transcript.divisionByZero,
          Transcript.prompt, Transcript.farewell] ∧
      Verdicts { tolerance := 1e-5 } 1
        ["7", "1/0"]
        [Transcript.banner, "> = 7", Transcript.divisionByZero,
          Transcript.prompt, Transcript.farewell]
        [Transcript.banner, "> = 8", Transcript.divisionByZero,
          Transcript.prompt, Transcript.farewell] := by
  have accepted : (expectations ["7", "1/0"]).2 =
      .ok [Transcript.banner, "> = 7", Transcript.divisionByZero,
        Transcript.prompt, Transcript.farewell] := by
    have framed :
        Expectation.frame
            [.value (Decimal.toFloat ⟨7, 0⟩), .divisionByZero] =
          [Transcript.banner, "> = 7", Transcript.divisionByZero,
            Transcript.prompt, Transcript.farewell] := by
      decide +kernel
    rw [← framed]
    rfl
  exact verdicts_of_expectations_eq_ok accepted rfl 1e-5

end CalculatorTrials
