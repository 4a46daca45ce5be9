import CalculatorTrials.Proofs.Evaluation
import CalculatorTrials.Proofs.Transcript.Expectation

/-!
# Transcripts of lists of inputs

What is expected for a list of inputs is what each of them is evaluated to by
itself. The first input that is refused gives the failure, with its own number;
the journal notes every division by zero in front of it.
-/

namespace CalculatorTrials

/-- The input is evaluated to some outcome. -/
def IsAccepted (input : String) : Prop :=
  ∃ outcome, evaluate input = .ok outcome

/-- A refusal at a line is the refusal of the input by itself, with the number of
the line. -/
theorem evaluateLine_eq_error_iff
    (line : Nat)
    (input : String)
    (reason : Refusal) :
    let text := String.ofList (Text.dropTerminators input.toList)
    evaluateLine line input = .error (.expression line text reason) ↔
      evaluate input = .error (.expression 1 text reason) := by
  simp only [evaluate, evaluateLine]
  cases Calculation.read (Text.dropTerminators input.toList) with
  | ok calculation => simp
  | error other => simp

/-- An input that is not evaluated is refused. -/
theorem exists_refusal_of_not_isAccepted
    {input : String}
    (refused : ¬IsAccepted input) :
    ∃ reason, evaluate input =
      .error (.expression 1
        (String.ofList (Text.dropTerminators input.toList)) reason) := by
  rw [exists_refusal_iff]
  rintro ⟨calculation, meaning⟩
  exact refused ⟨_, evaluate_eq_ok_outcome meaning⟩

/-- Inputs are all accepted, or there is a first one that is not. -/
theorem forall_isAccepted_or_exists (inputs : List String) :
    (∀ input ∈ inputs, IsAccepted input) ∨
      ∃ front input rest, inputs = front ++ input :: rest ∧
        (∀ accepted ∈ front, IsAccepted accepted) ∧ ¬IsAccepted input := by
  induction inputs with
  | nil => exact .inl (List.forall_mem_nil _)
  | cons first inputs inductionHypothesis =>
      by_cases accepted : IsAccepted first
      · rcases inductionHypothesis with all | ⟨front, input, rest, rfl, all, refused⟩
        · exact .inl (List.forall_mem_cons.mpr ⟨accepted, all⟩)
        · exact .inr ⟨first :: front, input, rest, rfl,
            List.forall_mem_cons.mpr ⟨accepted, all⟩, refused⟩
      · exact .inr ⟨[], first, inputs, rfl, List.forall_mem_nil _, accepted⟩

/-- Accepted inputs have outcomes. -/
theorem exists_map_evaluate_eq
    {inputs : List String}
    (accepted : ∀ input ∈ inputs, IsAccepted input) :
    ∃ results : List Outcome,
      inputs.map evaluate = results.map .ok := by
  induction inputs with
  | nil => exact ⟨[], rfl⟩
  | cons input inputs inductionHypothesis =>
      obtain ⟨⟨outcome, evaluates⟩, others⟩ := List.forall_mem_cons.mp accepted
      obtain ⟨results, same⟩ := inductionHypothesis others
      exact ⟨outcome :: results, by simp [evaluates, same]⟩

namespace Expectation

/-! ## The journal -/

/-- The entry for an input at a line, if the input divides by zero. -/
def divisionNote? (line : Nat) (input : String) : Option Entry :=
  match evaluate input with
  | .ok .divisionByZero =>
      some ⟨.trace, .expectation, s!"line {line}: division by zero"⟩
  | _ => none

/-- The entries for the inputs from a line on that divide by zero. -/
def divisionNotes (line : Nat) (inputs : List String) : Journal :=
  (inputs.zipIdx line).filterMap fun (input, number) =>
    divisionNote? number input

/-- What is noted for an outcome is what is noted for its input. -/
theorem note_eq
    {input : String}
    {outcome : Outcome}
    (evaluates : evaluate input = .ok outcome)
    (line : Nat) :
    note line outcome = (divisionNote? line input).toList := by
  rw [divisionNote?, evaluates]
  cases outcome <;> rfl

/-- The entry for the first input comes first. -/
theorem divisionNotes_cons
    (line : Nat)
    (input : String)
    (inputs : List String) :
    divisionNotes line (input :: inputs) =
      (divisionNote? line input).toList ++ divisionNotes (line + 1) inputs := by
  simp only [divisionNotes, List.zipIdx_cons, List.filterMap_cons]
  cases divisionNote? line input <;> rfl

/-! ## Inputs behind accepted ones -/

/-- The journal and the outcomes of accepted inputs come in front of those of the
inputs behind them. -/
theorem outcomes_append
    {front : List String}
    {results : List Outcome}
    (evaluates : front.map evaluate = results.map .ok)
    (line : Nat)
    (rest : List String) :
    outcomes line (front ++ rest) =
      (divisionNotes line front ++ (outcomes (line + front.length) rest).1,
        (outcomes (line + front.length) rest).2.map (results ++ ·)) := by
  induction front generalizing line results with
  | nil =>
      obtain rfl := List.map_eq_nil_iff.mp evaluates.symm
      rw [List.nil_append, List.length_nil, Nat.add_zero]
      rcases outcomes line rest with ⟨journal, failure | others⟩ <;> rfl
  | cons input front inductionHypothesis =>
      cases results with
      | nil => cases evaluates
      | cons outcome results =>
          obtain ⟨first, others⟩ := List.cons.inj evaluates
          have atLine := (evaluateLine_eq_ok_iff line input outcome).mpr first
          have next : line + 1 + front.length =
              line + (input :: front).length := by
            rw [List.length_cons]
            omega
          rw [List.cons_append, outcomes, atLine]
          simp only [inductionHypothesis others (line + 1), next,
            divisionNotes_cons, note_eq first, List.append_assoc]
          cases (outcomes (line + (input :: front).length) rest).2 <;> rfl

end Expectation

/-! ## The expected transcript -/

open Expectation

/-- Accepted inputs have the transcript that frames their outcomes. -/
theorem expectations_of_accepted
    {inputs : List String}
    {results : List Outcome}
    (evaluates : inputs.map evaluate = results.map .ok) :
    expectations inputs = (divisionNotes 1 inputs, .ok (frame results)) := by
  have all := outcomes_append evaluates 1 []
  rw [List.append_nil] at all
  simp [expectations, all, outcomes, Except.map]

/-- A refused input behind accepted ones is reported at its own line. -/
theorem expectations_of_refused
    {front : List String}
    {input : String}
    {reason : Refusal}
    (accepted : ∀ other ∈ front, IsAccepted other)
    (refused : evaluate input =
      .error (.expression 1
        (String.ofList (Text.dropTerminators input.toList)) reason))
    (rest : List String) :
    expectations (front ++ input :: rest) =
      (divisionNotes 1 front,
        .error (.expression (front.length + 1)
          (String.ofList (Text.dropTerminators input.toList)) reason)) := by
  obtain ⟨results, evaluates⟩ := exists_map_evaluate_eq accepted
  have atLine :=
    (evaluateLine_eq_error_iff (1 + front.length) input reason).mpr refused
  rw [expectations, outcomes_append evaluates, outcomes, atLine,
    Nat.add_comm 1]
  simp [Except.map]

/-- The lines of a transcript behind its banner, up to the prompt. -/
def Transcript.results (transcript : List String) : List String :=
  (transcript.drop 1).take (transcript.length - 3)

/-- The results in an expected transcript are the lines of its outcomes. -/
@[simp] theorem Transcript.results_frame (results : List Outcome) :
    Transcript.results (frame results) = results.map Outcome.line := by
  rw [Transcript.results, length_frame, frame, List.drop_one, List.tail_cons]
  apply List.take_left'
  rw [List.length_map]
  omega

/-- The results of inputs that follow each other do so too. -/
theorem results_expectations_append
    {inputs others : List String}
    (accepted : ∀ input ∈ inputs, IsAccepted input)
    (othersAccepted : ∀ input ∈ others, IsAccepted input) :
    ∃ first second both,
      (expectations inputs).2 = .ok first ∧
      (expectations others).2 = .ok second ∧
      (expectations (inputs ++ others)).2 = .ok both ∧
      Transcript.results both =
        Transcript.results first ++ Transcript.results second := by
  obtain ⟨results, evaluates⟩ := exists_map_evaluate_eq accepted
  obtain ⟨otherResults, otherEvaluates⟩ := exists_map_evaluate_eq othersAccepted
  have bothEvaluate : (inputs ++ others).map evaluate =
      (results ++ otherResults).map .ok := by
    rw [List.map_append, List.map_append, evaluates, otherEvaluates]
  refine ⟨frame results, frame otherResults, frame (results ++ otherResults),
    ?_, ?_, ?_, ?_⟩
  · rw [expectations_of_accepted evaluates]
  · rw [expectations_of_accepted otherEvaluates]
  · rw [expectations_of_accepted bothEvaluate]
  · simp only [Transcript.results_frame, List.map_append]

/-- Inputs that are all accepted are answered by the line of each outcome, in
order and framed. Of other inputs the first refused one is reported, as it is
refused by itself but with its own number. The journal notes the divisions by
zero in front of it, and the results of inputs that follow each other do so
too. -/
theorem expectations_answer_each_input (inputs : List String) :
    ((∀ input ∈ inputs, IsAccepted input) →
      ∃ outcomes : List Outcome,
        inputs.map evaluate = outcomes.map .ok ∧
        ∃ transcript,
          transcript = Transcript.banner :: (outcomes.map Outcome.line ++
            [Transcript.prompt, Transcript.farewell]) ∧
          transcript.length = inputs.length + 3 ∧
          (∀ line ∈ transcript, ∀ character ∈ line.toList,
            character ≠ '\n' ∧ character ≠ '\r') ∧
          expectations inputs = (divisionNotes 1 inputs, .ok transcript)) ∧
    ((¬∀ input ∈ inputs, IsAccepted input) →
      ∃ front input rest reason,
        inputs = front ++ input :: rest ∧
        (∀ accepted ∈ front, IsAccepted accepted) ∧
        evaluate input = .error (.expression 1
          (String.ofList (Text.dropTerminators input.toList)) reason) ∧
        expectations inputs = (divisionNotes 1 front,
          .error (.expression (front.length + 1)
            (String.ofList (Text.dropTerminators input.toList)) reason))) ∧
    ∀ others : List String,
      (∀ input ∈ inputs, IsAccepted input) →
      (∀ input ∈ others, IsAccepted input) →
      ∃ first second both,
        (expectations inputs).2 = .ok first ∧
        (expectations others).2 = .ok second ∧
        (expectations (inputs ++ others)).2 = .ok both ∧
        Transcript.results both =
          Transcript.results first ++ Transcript.results second := by
  refine ⟨?accepted, ?refused,
    fun others => results_expectations_append⟩
  case accepted =>
    intro accepted
    obtain ⟨outcomes, evaluates⟩ := exists_map_evaluate_eq accepted
    have sameLength : inputs.length = outcomes.length := by
      simpa using congrArg List.length evaluates
    refine ⟨outcomes, evaluates, frame outcomes, rfl, ?_,
      ne_terminator_of_mem_frame outcomes, expectations_of_accepted evaluates⟩
    rw [length_frame, sameLength]
  case refused =>
    intro notAll
    rcases forall_isAccepted_or_exists inputs with
      all | ⟨front, input, rest, rfl, accepted, notAccepted⟩
    · exact absurd all notAll
    · obtain ⟨reason, refused⟩ := exists_refusal_of_not_isAccepted notAccepted
      exact ⟨front, input, rest, reason, rfl, accepted, refused,
        expectations_of_refused accepted refused rest⟩

/-- Inputs with a division by zero, and one with a missing operand behind it. -/
theorem expectations_answer_division_by_zero :
    (∃ transcript, expectations ["8/4", "5/0"] =
      ([⟨.trace, .expectation, "line 2: division by zero"⟩], .ok transcript)) ∧
    ∃ reason, expectations ["5/0", "2*"] =
      ([⟨.trace, .expectation, "line 1: division by zero"⟩],
        .error (.expression 2 "2*" reason)) := by
  have quotient : IsAccepted "8/4" := ⟨_, rfl⟩
  have division : IsAccepted "5/0" := ⟨_, rfl⟩
  have missing : ¬IsAccepted "2*" := nofun
  constructor
  · obtain ⟨_, _, transcript, _, _, _, answers⟩ :=
      (expectations_answer_each_input ["8/4", "5/0"]).1
        (by simp [quotient, division])
    have notes : divisionNotes 1 ["8/4", "5/0"] =
        [⟨.trace, .expectation, "line 2: division by zero"⟩] := by
      decide +kernel
    exact ⟨transcript, notes ▸ answers⟩
  · obtain ⟨front, input, rest, reason, split, accepted, refused, answers⟩ :=
      (expectations_answer_each_input ["5/0", "2*"]).2.1
        (by simp [division, missing])
    have notes : divisionNotes 1 ["5/0"] =
        [⟨.trace, .expectation, "line 1: division by zero"⟩] := by
      decide +kernel
    -- Only the second input is refused, so one input is in front of it.
    obtain ⟨rfl, atStart⟩ | ⟨_, rfl, behind⟩ := List.cons_eq_append_iff.mp split
    · obtain ⟨rfl, _⟩ := List.cons.inj atStart
      cases refused
    · obtain ⟨rfl, same⟩ | ⟨_, rfl, _⟩ := List.cons_eq_append_iff.mp behind
      · obtain ⟨rfl, rfl⟩ := List.cons.inj same
        exact ⟨reason, notes ▸ answers⟩
      · exact absurd (accepted "2*" (by simp)) missing

end CalculatorTrials
