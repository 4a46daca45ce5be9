import CalculatorTrials.Binary64.Parse
import CalculatorTrials.Journal
import CalculatorTrials.Text.Blank
import CalculatorTrials.Text.Quoted
import CalculatorTrials.Transcript.Basic

/-!
# Comparing transcripts

Two transcripts are compared line by line. Lines at both ends are framing and
carry no results, but a banner and a farewell have to be in place. Two lines
agree if their texts do, or if both carry numbers within the tolerance.
-/

namespace CalculatorTrials

/-- The two transcripts of a comparison. -/
inductive Side where
  | expected
  | actual
  deriving DecidableEq, Repr

namespace Side

/-- The name of a side. -/
def name : Side → String
  | expected => "expected"
  | actual => "actual"

end Side

/-- One thing found wrong. Lines are numbered from one. -/
inductive Diagnostic where
  /-- The transcripts differ in length and nothing else was compared. -/
  | lengthMismatch (expected actual : Nat)
  /-- A line of the frame is not what it has to be. -/
  | framing (side : Side) (line : Nat) (wanted found : String)
  /-- Two results do not agree. -/
  | mismatch (line : Nat) (expected actual : String)
  deriving DecidableEq, Repr

namespace Diagnostic

/-- The text of a diagnostic. -/
def text : Diagnostic → String
  | lengthMismatch .. => "Lengths don't match!"
  | framing side line wanted found =>
      s!"Framing: {side.name} line {line} is {Text.quoted found}, " ++
        s!"wanted {Text.quoted wanted}"
  | mismatch _ expected actual => s!"Mismatch: {expected} != {actual}"

/-- Whether a diagnostic is about two results. -/
def isMismatch : Diagnostic → Bool
  | mismatch .. => true
  | lengthMismatch .. | framing .. => false

/-- The journal of a diagnostic. Only a wrong farewell deserves an entry. -/
def journal : Diagnostic → Journal
  | framing side _ wanted found =>
      if wanted = Transcript.farewell then
        [⟨.debug, .comparison,
          s!"{side.name} transcript ends with {Text.quoted found}"⟩]
      else []
  | lengthMismatch .. | mismatch .. => []

end Diagnostic

/-- The result of a comparison. -/
structure Report where
  /-- The number of pairs of results that were compared. -/
  compared : Nat
  /-- All that was found wrong, in order. -/
  diagnostics : List Diagnostic
  deriving DecidableEq, Repr

namespace Report

/-- Whether nothing was found wrong. -/
def isClean (report : Report) : Bool :=
  report.diagnostics.isEmpty

/-- The diagnostics about two results. -/
def mismatches (report : Report) : List Diagnostic :=
  report.diagnostics.filter Diagnostic.isMismatch

/-- The text of a report, a line for each diagnostic. -/
def text (report : Report) : String :=
  String.join (report.diagnostics.map fun diagnostic => diagnostic.text ++ "\n")

/-- The journal of a comparison. -/
def journal (report : Report) : Journal :=
  report.diagnostics.flatMap Diagnostic.journal

end Report

namespace Transcript

/-- The text behind a number of bytes, unless the text is shorter or a
character lies across the place. -/
def dropBytes? : (count : Nat) → List Char → Option (List Char)
  | 0, text => some text
  | _ + 1, [] => none
  | count + 1, character :: text =>
      if character.utf8Size ≤ count + 1 then
        dropBytes? (count + 1 - character.utf8Size) text
      else none

/-- The text of a line where a number may stand. -/
def valueText? (line : String) : Option (List Char) :=
  (dropBytes? valueOffset line.toList).map Text.trim

/-- The number that a line carries. -/
def value? (line : String) : Option Float :=
  (valueText? line).bind Binary64.parse?

end Transcript

/-- The rules of a comparison. -/
structure Checker where
  /-- The greatest distance of the ratio of two numbers from one. -/
  tolerance : Float := 1e-5
  /-- The number of lines at the start that carry no results. -/
  leading : Nat := 1
  /-- The number of lines at the end that carry no results. -/
  trailing : Nat := 3

namespace Checker

/-- Whether two numbers agree. A ratio that is no number counts as agreement. -/
def accepts (checker : Checker) (expected actual : Float) : Bool :=
  expected == actual ||
    !((expected / actual - 1).abs > checker.tolerance)

/-- Whether two lines carry numbers that agree. -/
def sameValue (checker : Checker) (expected actual : String) : Bool :=
  match Transcript.value? expected, Transcript.value? actual with
  | some left, some right => checker.accepts left right
  | _, _ => false

/-- What is wrong with a line of the frame, white space at its end aside. -/
def checkFrameLine
    (side : Side)
    (number : Nat)
    (wanted line : String) : List Diagnostic :=
  if Text.trimEnd line.toList = wanted.toList then []
  else [.framing side number wanted line]

/-- What is wrong with the frame of a transcript. -/
def checkFrame (side : Side) : List String → List Diagnostic
  | [] => []
  | first :: rest =>
      checkFrameLine side 1 Transcript.banner first ++
        checkFrameLine side (rest.length + 1) Transcript.farewell
          (rest.getLastD first)

/-- What is wrong with pairs of results from a line on. -/
def checkResults
    (checker : Checker)
    (number : Nat) : List (String × String) → List Diagnostic
  | [] => []
  | (expected, actual) :: rest =>
      let others := checker.checkResults (number + 1) rest
      if expected = actual ∨ checker.sameValue expected actual then others
      else .mismatch number expected actual :: others

/-- Compare a transcript with the expected one. -/
def compare (checker : Checker) (expected actual : List String) : Report :=
  if expected.length ≠ actual.length then
    ⟨0, [.lengthMismatch expected.length actual.length]⟩
  else
    let finish := expected.length - checker.trailing
    let start := min checker.leading finish
    let pairs := ((expected.zip actual).take finish).drop start
    ⟨pairs.length,
      checkFrame .expected expected ++ checkFrame .actual actual ++
        checker.checkResults (start + 1) pairs⟩

end Checker
end CalculatorTrials
