import CalculatorTrials.Text.Lines
import CalculatorTrials.Transcript.Comparison
import CalculatorTrials.Transcript.Expectation
import CalculatorTrials.Workspace.Corpus

/-!
# Files of transcripts

The expected transcript for a file of test cases is written to a file, and a
calculator's transcript is compared with it. Nothing is written unless every
test case is an expression.
-/

namespace CalculatorTrials
namespace Activity

variable [Monad m] [MonadWorkspace m]

/-- Write the transcript expected for the test cases of a file. The result is
the number of test cases. -/
def writeExpectations
    (testFile expectFile : String) : Activity m Nat := do
  let tests := Text.lines (← readText testFile)
  let (journal, result) := expectations tests
  recordAll journal
  let transcript ← ExceptT.mk (pure result)
  writeText expectFile (.ofLines transcript.length (Thunk.pure transcript) rfl)
  let count := transcript.length - Transcript.framingLines
  record ⟨.info, .expectation,
    s!"wrote {count} expectations for {testFile} to {expectFile}"⟩
  return count

/-- Write the default number of test cases, and the transcript expected for
them. -/
def generateRequiredFiles
    (testFile expectFile : String) : Activity m Summary := do
  let summary ← generateTests defaultCount testFile
  let _ ← writeExpectations testFile expectFile
  return summary

/-- The closing entry of a comparison of files. -/
def verdict (expectFile resultsFile : String) (report : Report) : Entry :=
  if report.isClean then
    ⟨.info, .comparison,
      s!"{resultsFile} matches {expectFile} ({report.compared} results)"⟩
  else
    ⟨.warn, .comparison,
      s!"{resultsFile} differs from {expectFile}: " ++
        s!"{report.diagnostics.length} diagnostics over {report.compared} results"⟩

/-- Compare the transcripts of two files. -/
def checkFiles
    (checker : Checker)
    (expectFile resultsFile : String) : Activity m Report := do
  let expected := Text.lines (← readText expectFile)
  let actual := Text.lines (← readText resultsFile)
  let report := checker.compare expected actual
  recordAll report.journal
  record (verdict expectFile resultsFile report)
  return report

/-- Compare the transcripts of two files by the default rules. -/
def check (expectFile resultsFile : String) : Activity m Report :=
  checkFiles {} expectFile resultsFile

end Activity
end CalculatorTrials
