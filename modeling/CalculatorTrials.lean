import CalculatorTrials.Calculation.Grammar
import CalculatorTrials.Main
import CalculatorTrials.Workspace.Files
import CalculatorTrials.Generator.Watched
import CalculatorTrials.Proofs.Numeral.Letters
import CalculatorTrials.Proofs.Numeral.Scan
import CalculatorTrials.Proofs.Reader.Step
import CalculatorTrials.Proofs.Reader.Run
import CalculatorTrials.Proofs.Reader.Completeness
import CalculatorTrials.Proofs.Reader.Soundness
import CalculatorTrials.Proofs.Reader.Answer
import CalculatorTrials.Proofs.Numeral.Value
import CalculatorTrials.Proofs.Division
import CalculatorTrials.Proofs.Arithmetic
import CalculatorTrials.Proofs.Grammar.Outcome
import CalculatorTrials.Proofs.Evaluation
import CalculatorTrials.Proofs.Expression.Derivation
import CalculatorTrials.Proofs.Binary64.Bits
import CalculatorTrials.Proofs.Binary64.Rounding
import CalculatorTrials.Proofs.Decimal.Shortest
import CalculatorTrials.Proofs.Binary64.Text
import CalculatorTrials.Proofs.Transcript.Value
import CalculatorTrials.Proofs.Transcript.Comparison
import CalculatorTrials.Proofs.Transcript.Word
import CalculatorTrials.Proofs.Entropy.Draw
import CalculatorTrials.Proofs.Expression.Nesting
import CalculatorTrials.Proofs.Text.Digits
import CalculatorTrials.Proofs.Expression.Recognizer
import CalculatorTrials.Proofs.Expression.Text
import CalculatorTrials.Proofs.Generator.Soundness
import CalculatorTrials.Proofs.Generator.Completeness
import CalculatorTrials.Proofs.Text.Lines
import CalculatorTrials.Proofs.Transcript.Expectation
import CalculatorTrials.Proofs.Workspace.Files
import CalculatorTrials.Proofs.Workspace.Replacement
import CalculatorTrials.Proofs.Workspace.Run
import CalculatorTrials.Proofs.Workspace.Corpus
import CalculatorTrials.Proofs.Workspace.Transcripts
import CalculatorTrials.Proofs.Binary64.Ratio
import CalculatorTrials.Proofs.Transcript.Tolerance
import CalculatorTrials.Proofs.Generator.Watched
import CalculatorTrials.Proofs.Expression.Structure
import CalculatorTrials.Proofs.Workspace.Atomicity
import CalculatorTrials.Case.Iterator
import CalculatorTrials.Proofs.Entropy.Cursor
import CalculatorTrials.Proofs.Case.Iterator
import CalculatorTrials.Proofs.Workspace.Growth
import CalculatorTrials.Proofs.Transcript.Report
import CalculatorTrials.Proofs.Grammar.Part
import CalculatorTrials.Proofs.Transcript.ReadBack
import CalculatorTrials.Proofs.Transcript.Inputs
import CalculatorTrials.Proofs.Expression.Shape
import CalculatorTrials.Proofs.Entropy.Cost
import CalculatorTrials.Proofs.Generator.Bytes
import CalculatorTrials.Proofs.Entropy.Agreement
import CalculatorTrials.Proofs.Generator.Depth
import CalculatorTrials.Proofs.Binary64.Order
import CalculatorTrials.Proofs.Transcript.Leniency
import CalculatorTrials.Proofs.Generator.Exhaustion
import CalculatorTrials.Proofs.Workspace.Comparison
