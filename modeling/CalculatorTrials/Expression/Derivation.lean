import CalculatorTrials.Decimal.Basic
import CalculatorTrials.Expression.Event
import CalculatorTrials.Outcome

/-!
# Derivations of the grammar of test cases

An expression is a chain of terms, a term is a chain of primaries, and a primary
is a literal or an expression in parentheses. Chains grow at their right end, so
a derivation has the shape in which the expression is evaluated.
-/

namespace CalculatorTrials

/-- A decimal literal: a sign, the digits on both sides of a point, and
possibly an exponent. -/
structure Literal where
  sign : Sign
  whole : Nat
  fraction : Nat
  exponent : Option (Marker × Nat)
  deriving DecidableEq, Repr

namespace Literal

/-- The events of a literal. -/
def events (literal : Literal) : List Event :=
  .sign literal.sign :: .digits literal.whole literal.fraction ::
    (literal.exponent.map fun (marker, size) => .exponent marker size).toList

/-- The power of ten that a literal names. -/
def power (literal : Literal) : Int :=
  match literal.exponent with
  | none => 0
  | some (.lowerMinus, size) | some (.upperMinus, size) => -size
  | some (_, size) => size

/-- The number of a literal without its sign. Its fraction has as many places
as it has digits. -/
def unsigned (literal : Literal) : Decimal :=
  let places := (Nat.toDigits 10 literal.fraction).length
  ⟨literal.whole * Nat.pow 10 places + literal.fraction, literal.power - places⟩

/-- The outcome of a literal. -/
def outcome (literal : Literal) : Outcome :=
  let number := Outcome.value literal.unsigned.toFloat
  match literal.sign with
  | .unsigned | .plus => number
  | .minus => number.negate

end Literal

/-- The rules of the grammar. -/
inductive Rule where
  | expression
  | term
  | primary
  deriving DecidableEq, Repr

/-- The derivations from a rule. -/
inductive Derivation : Rule → Type where
  | literal (literal : Literal) : Derivation .primary
  | group (body : Derivation .expression) : Derivation .primary
  | factor (primary : Derivation .primary) : Derivation .term
  | product
      (left : Derivation .term)
      (operator : Multiplicative)
      (right : Derivation .primary) : Derivation .term
  | summand (term : Derivation .term) : Derivation .expression
  | sum
      (left : Derivation .expression)
      (operator : Additive)
      (right : Derivation .term) : Derivation .expression
  deriving Repr

namespace Derivation

/-- The events of a derivation, with others behind them. -/
def eventsBefore : Derivation rule → List Event → List Event
  | literal number, later => number.events ++ later
  | group body, later => .openGroup :: body.eventsBefore (.closeGroup :: later)
  | factor primary, later => primary.eventsBefore later
  | product left operator right, later =>
      left.eventsBefore
        (.operator (.multiplicative operator) :: right.eventsBefore later)
  | summand term, later => term.eventsBefore later
  | sum left operator right, later =>
      left.eventsBefore
        (.operator (.additive operator) :: right.eventsBefore later)

/-- The events of a derivation. -/
def events (derivation : Derivation rule) : List Event :=
  derivation.eventsBefore []

theorem eventsBefore_append
    (derivation : Derivation rule)
    (later last : List Event) :
    derivation.eventsBefore (later ++ last) =
      derivation.eventsBefore later ++ last := by
  induction derivation generalizing later with
  | literal number => simp [eventsBefore]
  | group body inductionHypothesis =>
      simp [eventsBefore, ← inductionHypothesis]
  | factor primary inductionHypothesis => exact inductionHypothesis later
  | product left operator right leftHypothesis rightHypothesis =>
      simp [eventsBefore, ← leftHypothesis, ← rightHypothesis]
  | summand term inductionHypothesis => exact inductionHypothesis later
  | sum left operator right leftHypothesis rightHypothesis =>
      simp [eventsBefore, ← leftHypothesis, ← rightHypothesis]

theorem eventsBefore_eq
    (derivation : Derivation rule)
    (later : List Event) :
    derivation.eventsBefore later = derivation.events ++ later :=
  derivation.eventsBefore_append [] later

@[simp] theorem events_literal (number : Literal) :
    (literal number).events = number.events :=
  List.append_nil _

@[simp] theorem events_group (body : Derivation .expression) :
    (group body).events = .openGroup :: (body.events ++ [.closeGroup]) :=
  congrArg (List.cons Event.openGroup) (body.eventsBefore_eq [.closeGroup])

@[simp] theorem events_factor (primary : Derivation .primary) :
    (factor primary).events = primary.events := rfl

@[simp] theorem events_product
    (left : Derivation .term)
    (operator : Multiplicative)
    (right : Derivation .primary) :
    (product left operator right).events =
      left.events ++ .operator (.multiplicative operator) :: right.events :=
  left.eventsBefore_eq _

@[simp] theorem events_summand (term : Derivation .term) :
    (summand term).events = term.events := rfl

@[simp] theorem events_sum
    (left : Derivation .expression)
    (operator : Additive)
    (right : Derivation .term) :
    (sum left operator right).events =
      left.events ++ .operator (.additive operator) :: right.events :=
  left.eventsBefore_eq _

/-- The text of a derivation. -/
def text (derivation : Derivation rule) : List Char :=
  derivation.events.flatMap Event.text

/-- The outcome of a derivation. -/
def outcome : Derivation rule → Outcome
  | literal number => number.outcome
  | group body => body.outcome
  | factor primary => primary.outcome
  | product left operator right =>
      (Operator.multiplicative operator).combine left.outcome right.outcome
  | summand term => term.outcome
  | sum left operator right =>
      (Operator.additive operator).combine left.outcome right.outcome

/-- The depth to which groups nest in a derivation. -/
def nesting : Derivation rule → Nat
  | literal _ => 0
  | group body => body.nesting + 1
  | factor primary => primary.nesting
  | product left _ right => max left.nesting right.nesting
  | summand term => term.nesting
  | sum left _ right => max left.nesting right.nesting

end Derivation
end CalculatorTrials
