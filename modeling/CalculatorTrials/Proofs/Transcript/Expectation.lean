import CalculatorTrials.Proofs.Text.Lines
import CalculatorTrials.Proofs.Transcript.Comparison

/-!
# Expected transcripts

The lines of an expected transcript hold no terminators, so it can be written to
a file and is read back as it is, and compared with itself it is clean.
-/

namespace CalculatorTrials

/-! ## Lines of a transcript -/

/-- The lines of a transcript are the banner, a line for each outcome, the
prompt and the farewell. -/
@[simp] theorem Expectation.length_frame (results : List Outcome) :
    (frame results).length = results.length + 3 := by
  simp [frame]

/-- The line of an outcome holds no terminators. -/
theorem Outcome.ne_terminator_of_mem_line (outcome : Outcome) :
    ∀ character ∈ outcome.line.toList,
      character ≠ '\n' ∧ character ≠ '\r' := by
  cases outcome with
  | divisionByZero => simp [line, Transcript.divisionByZero]
  | value number =>
      have written := Binary64.written_text number
      rw [line, valueText, String.toList_append, String.toList_ofList]
      refine List.forall_mem_append.mpr ⟨?_, ?_⟩
      · simp [Transcript.resultLead]
      · intro character member
        exact Text.ne_terminator_of_isWhiteSpace
          (written.isWhiteSpace_eq_false character member)

/-- No line of an expected transcript holds terminators. -/
theorem Expectation.ne_terminator_of_mem_frame (results : List Outcome) :
    ∀ line ∈ frame results, ∀ character ∈ line.toList,
      character ≠ '\n' ∧ character ≠ '\r' := by
  have ofOutcomes : ∀ line ∈ results.map Outcome.line,
      ∀ character ∈ line.toList, character ≠ '\n' ∧ character ≠ '\r' :=
    List.forall_mem_map.mpr fun outcome _ => outcome.ne_terminator_of_mem_line
  refine List.forall_mem_cons.mpr ⟨?_, List.forall_mem_append.mpr
    ⟨ofOutcomes, List.forall_mem_cons.mpr
      ⟨?_, List.forall_mem_singleton.mpr ?_⟩⟩⟩ <;>
    simp [Transcript.banner, Transcript.prompt, Transcript.farewell]

/-- The lines of an expected transcript are lines of a file. -/
theorem Expectation.isLine_frame (results : List Outcome) :
    ∀ line ∈ frame results, Text.IsLine line.toList := by
  intro line member
  exact Text.isLine_of_forall_ne (ne_terminator_of_mem_frame results line member)

/-! ## A transcript compared with itself -/

namespace Checker

/-- Pairs of the same line are not told apart. -/
theorem checkResults_eq_nil
    (checker : Checker)
    (number : Nat)
    {pairs : List (String × String)}
    (same : ∀ pair ∈ pairs, pair.1 = pair.2) :
    checker.checkResults number pairs = [] := by
  rw [List.eq_nil_iff_forall_not_mem]
  intro diagnostic member
  obtain ⟨index, expected, actual, found, _, rejects⟩ :=
    (checker.mem_checkResults_iff number pairs diagnostic).mp member
  exact rejects.1 (same _ (List.mem_of_getElem? found))

/-- An expected transcript does not differ from itself. -/
theorem diagnostics_compare_self
    (checker : Checker)
    (results : List Outcome) :
    (checker.compare (Expectation.frame results)
      (Expectation.frame results)).diagnostics = [] := by
  have same : ∀ pair ∈ (Expectation.frame results).zip
      (Expectation.frame results), pair.1 = pair.2 := by
    intro pair member
    obtain ⟨index, inside, rfl⟩ := List.getElem_of_mem member
    rw [List.getElem_zip]
  rw [compare, if_neg (not_not_intro rfl), checkFrame_frame, checkFrame_frame]
  refine checker.checkResults_eq_nil _ fun pair member => ?_
  exact same pair (List.mem_of_mem_take (List.mem_of_mem_drop member))

end Checker
end CalculatorTrials
