/-!
# The journal

A journal tells in order what an activity found worth noting. An entry carries
the part of the program that wrote it, so that a reader can choose entries by
severity and by origin.
-/

namespace CalculatorTrials

/-- The severity of an entry, the gravest first. -/
inductive Severity where
  | error
  | warn
  | info
  | debug
  | trace
  deriving DecidableEq, Repr

namespace Severity

/-- All severities, the gravest first. -/
def all : List Severity := [error, warn, info, debug, trace]

/-- The name of a severity. -/
def name : Severity → String
  | error => "ERROR"
  | warn => "WARN"
  | info => "INFO"
  | debug => "DEBUG"
  | trace => "TRACE"

/-- The place of a severity among all, from one. -/
def rank : Severity → Nat
  | error => 1
  | warn => 2
  | info => 3
  | debug => 4
  | trace => 5

end Severity

/-- The part of the program that an entry comes from. -/
inductive Origin where
  /-- Writing test cases. -/
  | corpus
  /-- Working out expected transcripts. -/
  | expectation
  /-- Comparing transcripts. -/
  | comparison
  /-- Running commands. -/
  | command
  deriving DecidableEq, Repr

/-- An entry of a journal. -/
structure Entry where
  severity : Severity
  origin : Origin
  text : String
  deriving DecidableEq, Repr

/-- The entries of an activity, in order. -/
abbrev Journal := List Entry

end CalculatorTrials
