import CalculatorTrials.Calculation.Reader
import CalculatorTrials.Text.Quoted

/-!
# Failures

What keeps an activity from reaching its result: a line of input that cannot be
read as an expression, or a file that cannot be read or written. A division by
zero is no failure but an outcome.
-/

namespace CalculatorTrials

/-- Why a file cannot be read or written. -/
inductive FileFault where
  | notFound
  | notDirectory
  | isDirectory
  | noSpace
  | notText
  /-- A name, or the whole path, with more bytes than the system takes. -/
  | nameTooLong
  /-- A path with the character that ends texts of the system. -/
  | nulInPath
  /-- A fault outside this list, with its description. -/
  | other (description : String)
  deriving DecidableEq, Repr

namespace FileFault

/-- The text of a fault. -/
def text : FileFault → String
  | notFound => "No such file or directory (os error 2)"
  | notDirectory => "Not a directory (os error 20)"
  | isDirectory => "Is a directory (os error 21)"
  | noSpace => "No space left on device (os error 28)"
  | notText => "stream did not contain valid UTF-8"
  | nameTooLong => "File name too long (os error 36)"
  | nulInPath => "file name contained an unexpected NUL byte"
  | other description => description

end FileFault

/-- Why an activity has no result. -/
inductive Failure where
  /-- A line that is no expression, by its number, its text without terminators
  and the reason. -/
  | expression (line : Nat) (text : String) (reason : Refusal)
  /-- A file that cannot be used, by its path and the reason. -/
  | file (path : String) (reason : FileFault)
  deriving DecidableEq, Repr

namespace Failure

/-- The text of a failure's reason. -/
def reasonText : Failure → String
  | expression _ _ reason => reason.text
  | file _ reason => reason.text

/-- The text of a failure. -/
def text : Failure → String
  | expression line text reason =>
      s!"line {line}: invalid expression {Text.quoted text}: {reason.text}"
  | file path reason => s!"{path}: {reason.text}"

/-- Whether a failure lies in an expression. -/
def isExpression : Failure → Bool
  | expression .. => true
  | file .. => false

end Failure
end CalculatorTrials
