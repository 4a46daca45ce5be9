import CalculatorTrials.Expression.Symbol

/-!
# Events

An expression is told as a list of events, in the order in which its characters
are written. The text of an expression is the text of its events.
-/

namespace CalculatorTrials

/-- A step in writing an expression. -/
inductive Event where
  | openGroup
  | closeGroup
  | operator (operator : Operator)
  | sign (sign : Sign)
  | digits (whole fraction : Nat)
  | exponent (marker : Marker) (size : Nat)
  deriving DecidableEq, Repr

namespace Event

/-- The characters of an event. -/
def text : Event → List Char
  | openGroup => ['(']
  | closeGroup => [')']
  | operator symbol => [symbol.character]
  | sign symbol => symbol.text
  | digits whole fraction =>
      Nat.toDigits 10 whole ++ '.' :: Nat.toDigits 10 fraction
  | exponent marker size => marker.text ++ Nat.toDigits 10 size

end Event
end CalculatorTrials
