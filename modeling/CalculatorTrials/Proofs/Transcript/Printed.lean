import CalculatorTrials.Proofs.Text.Quoted
import CalculatorTrials.Proofs.Transcript.Report

/-!
# Printed reports

A report is printed with one line for each diagnostic, whatever the lines are
that were compared. In the journal of a comparison there is one entry for each
farewell that is not in place, and no other one.
-/

namespace CalculatorTrials

/-! ## Diagnostics -/

namespace Diagnostic

open Text

/-- The text of a diagnostic is a line if the results that it shows as they are
can be lines. -/
theorem isLine_text
    {diagnostic : Diagnostic}
    (shown : ∀ line expected actual,
      diagnostic = mismatch line expected actual →
        IsLine expected.toList ∧ IsLine actual.toList) :
    IsLine diagnostic.text.toList := by
  cases diagnostic with
  | lengthMismatch expected actual =>
      exact isLine_of_forall_ne (by simp [text])
  | framing side line wanted found =>
      have opening : IsLine "Framing: ".toList := isLine_of_forall_ne (by simp)
      have name : IsLine side.name.toList := by
        apply isLine_of_forall_ne
        cases side <;> simp [Side.name]
      have place : IsLine " line ".toList := isLine_of_forall_ne (by simp)
      have verb : IsLine " is ".toList := isLine_of_forall_ne (by simp)
      have comma : IsLine ", ".toList := isLine_of_forall_ne (by simp)
      have wish : IsLine "wanted ".toList := isLine_of_forall_ne (by simp)
      simp only [text, String.toList_append]
      exact ((((((opening.append name).append place).append
        (isLine_toString line)).append verb).append
          (isLine_quoted found)).append comma).append
            (wish.append (isLine_quoted wanted))
  | mismatch line expected actual =>
      obtain ⟨isExpected, isActual⟩ := shown line expected actual rfl
      have opening : IsLine "Mismatch: ".toList := isLine_of_forall_ne (by simp)
      have sign : IsLine " != ".toList := isLine_of_forall_ne (by simp)
      simp only [text, String.toList_append]
      exact ((opening.append isExpected).append sign).append isActual

/-- Whether a diagnostic is about the farewell of a transcript. -/
def isAboutFarewell : Diagnostic → Bool
  | framing _ _ wanted _ => wanted = Transcript.farewell
  | lengthMismatch .. | mismatch .. => false

/-- A diagnostic about the farewell has one entry in the journal, and any other
one has none. -/
theorem severities_journal (diagnostic : Diagnostic) :
    diagnostic.journal.map Entry.severity =
      List.replicate diagnostic.isAboutFarewell.toNat .debug := by
  cases diagnostic with
  | lengthMismatch => rfl
  | framing side line wanted found =>
      by_cases farewell : wanted = Transcript.farewell <;>
        simp [journal, isAboutFarewell, farewell]
  | mismatch => rfl

end Diagnostic

/-! ## Reports -/

namespace Report

/-- A report is printed with a line feed behind each of its diagnostics. -/
theorem text_eq (report : Report) :
    report.text = Text.unlines (report.diagnostics.map Diagnostic.text) := by
  apply String.toList_injective
  rw [text, String.join_eq, String.toList_ofList, Text.toList_unlines,
    List.map_map, List.flatMap_map, List.flatMap_def]
  congr 1
  refine List.map_congr_left fun diagnostic _ => ?_
  exact String.toList_append ..

/-- There is an entry for each diagnostic about the farewell. -/
theorem severities_journal (report : Report) :
    report.journal.map Entry.severity =
      List.replicate (report.diagnostics.countP Diagnostic.isAboutFarewell)
        .debug := by
  unfold journal
  induction report.diagnostics with
  | nil => rfl
  | cons diagnostic diagnostics inductionHypothesis =>
      rw [List.flatMap_cons, List.map_append, inductionHypothesis,
        Diagnostic.severities_journal, List.replicate_append_replicate,
        List.countP_cons, Nat.add_comm]
      cases diagnostic.isAboutFarewell <;> rfl

end Report

/-! ## Comparisons -/

namespace Checker

variable {checker : Checker} {expected actual : List String}

/-- The results of a mismatch are lines of the two transcripts. -/
theorem mem_of_mismatch_mem_compare
    {line : Nat}
    {first second : String}
    (member : .mismatch line first second ∈
      (checker.compare expected actual).diagnostics) :
    first ∈ expected ∧ second ∈ actual := by
  by_cases sameLength : expected.length = actual.length
  · obtain ⟨index, _, _, _, isFirst, isSecond, _⟩ :=
      (checker.mismatch_mem_compare_iff sameLength line first second).mp member
    exact ⟨List.mem_of_getElem? isFirst, List.mem_of_getElem? isSecond⟩
  · rw [checker.compare_of_length_ne sameLength, List.mem_singleton] at member
    cases member

/-- The lines of a printed report on lines are the texts of its diagnostics. -/
theorem lines_text_compare
    (areExpected : ∀ line ∈ expected, Text.IsLine line.toList)
    (areActual : ∀ line ∈ actual, Text.IsLine line.toList) :
    let report := checker.compare expected actual
    Text.lines report.text = report.diagnostics.map Diagnostic.text := by
  intro report
  rw [report.text_eq]
  apply Text.lines_unlines
  intro text member
  obtain ⟨diagnostic, among, rfl⟩ := List.mem_map.mp member
  apply Diagnostic.isLine_text
  rintro line first second rfl
  obtain ⟨isExpected, isActual⟩ := mem_of_mismatch_mem_compare among
  exact ⟨areExpected first isExpected, areActual second isActual⟩

end Checker
end CalculatorTrials
