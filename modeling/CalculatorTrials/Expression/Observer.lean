import CalculatorTrials.Expression.Event

/-!
# Observers

An observer follows an expression event by event and keeps a state. Observers
can be put side by side, and then each of them sees every event.
-/

namespace CalculatorTrials

/-- A way to follow events. -/
structure Observer (State : Type) where
  /-- The state before the first event. -/
  start : State
  /-- The state after one more event. -/
  step : State → Event → State

namespace Observer

/-- The state after a list of events. -/
def observe (observer : Observer State) (events : List Event) : State :=
  events.foldl observer.step observer.start

/-- What an observer sees of two lists of events is what it sees of the second
one after the first one. -/
theorem observe_append
    (observer : Observer State)
    (first second : List Event) :
    observer.observe (first ++ second) =
      second.foldl observer.step (observer.observe first) :=
  List.foldl_append

/-- Two observers side by side. -/
def pair
    (first : Observer First)
    (second : Observer Second) : Observer (First × Second) where
  start := (first.start, second.start)
  step state event := (first.step state.1 event, second.step state.2 event)

/-- Observers side by side see what each of them sees alone. -/
@[simp] theorem observe_pair
    (first : Observer First)
    (second : Observer Second)
    (events : List Event) :
    (first.pair second).observe events =
      (first.observe events, second.observe events) := by
  suffices steps : ∀ state,
      events.foldl (first.pair second).step state =
        (events.foldl first.step state.1, events.foldl second.step state.2) from
    steps (first.start, second.start)
  induction events with
  | nil => intro state; rfl
  | cons event events inductionHypothesis =>
      intro state
      exact inductionHypothesis _

/-- Three observers side by side. -/
def triple
    (first : Observer First)
    (second : Observer Second)
    (third : Observer Third) : Observer (First × Second × Third) :=
  first.pair (second.pair third)

/-- The observer that sees nothing. -/
def nothing : Observer Unit where
  start := ()
  step _ _ := ()

/-- An observer in a row of its own. -/
def single (observer : Observer State) : Observer (State × Unit) :=
  observer.pair nothing

/-- The observer that writes the expression down. -/
def text : Observer String where
  start := ""
  step written event := event.text.foldl String.push written

/-- The observer that writes down the operators alone. -/
def operators : Observer String where
  start := ""
  step
    | written, .operator operator => written.push operator.character
    | written, _ => written

/-- The observer that keeps all events. -/
def record : Observer (Array Event) where
  start := #[]
  step := Array.push

end Observer
end CalculatorTrials
