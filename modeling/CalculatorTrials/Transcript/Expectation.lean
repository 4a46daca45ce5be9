import CalculatorTrials.Failure
import CalculatorTrials.Journal
import CalculatorTrials.Text.Blank
import CalculatorTrials.Transcript.Basic

/-!
# Expected transcripts

The transcript that a correct calculator answers to a list of inputs. The first
input that is no expression leaves no transcript. Divisions by zero up to there
are noted in the journal.
-/

namespace CalculatorTrials

/-- The outcome of an input at a line. Terminators at its end do not count. -/
def evaluateLine (line : Nat) (input : String) : Except Failure Outcome :=
  let text := Text.dropTerminators input.toList
  match Calculation.read text with
  | .ok calculation => .ok calculation.outcome
  | .error reason => .error (.expression line (String.ofList text) reason)

/-- The outcome of a single input. -/
def evaluate (input : String) : Except Failure Outcome :=
  evaluateLine 1 input

namespace Expectation

/-- The entry for an outcome, if it deserves one. -/
def note (line : Nat) : Outcome → Journal
  | .value _ => []
  | .divisionByZero => [⟨.trace, .expectation, s!"line {line}: division by zero"⟩]

/-- The outcomes of inputs from a line on, up to the first failure. -/
def outcomes
    (line : Nat) : List String → Journal × Except Failure (List Outcome)
  | [] => ([], .ok [])
  | input :: rest =>
      match evaluateLine line input with
      | .error failure => ([], .error failure)
      | .ok outcome =>
          let (journal, result) := outcomes (line + 1) rest
          (note line outcome ++ journal, result.map (outcome :: ·))

/-- The transcript with the given outcomes. -/
def frame (outcomes : List Outcome) : List String :=
  Transcript.banner ::
    (outcomes.map Outcome.line ++ [Transcript.prompt, Transcript.farewell])

end Expectation

/-- The transcript expected for a list of inputs. -/
def expectations
    (inputs : List String) : Journal × Except Failure (List String) :=
  let (journal, result) := Expectation.outcomes 1 inputs
  (journal, result.map Expectation.frame)

end CalculatorTrials
