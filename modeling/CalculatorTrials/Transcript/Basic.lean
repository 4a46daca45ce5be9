import CalculatorTrials.Decimal.Layout
import CalculatorTrials.Outcome

/-!
# Transcripts

A transcript of a calculator has a banner, one line for each input, a prompt
that no input follows, and a farewell. The line of an input carries a number or
tells of a division by zero.
-/

namespace CalculatorTrials
namespace Transcript

/-- The first line. -/
def banner : String := "Welcome to Power Calculator!"

/-- The line left when the input has come to its end. -/
def prompt : String := ">"

/-- The last line. -/
def farewell : String := "Bye!"

/-- The line of an input that divides by zero. -/
def divisionByZero : String := "> ! Division by 0."

/-- What stands in front of a number. -/
def resultLead : String := "> = "

/-- The number of bytes in front of the text of a number. -/
def valueOffset : Nat := 3

/-- The number of lines beside those of the inputs. -/
def framingLines : Nat := 3

end Transcript

/-- The text of a number in a transcript. -/
def valueText (number : Float) : String :=
  String.ofList (Binary64.text number)

namespace Outcome

/-- The line of an outcome. -/
def line : Outcome → String
  | value number => Transcript.resultLead ++ valueText number
  | divisionByZero => Transcript.divisionByZero

end Outcome
end CalculatorTrials
