import CalculatorTrials.Entropy.Loop
import CalculatorTrials.Expression.Observer
import CalculatorTrials.Generator

/-!
# Generating before an observer

An observer can watch an expression while it is drawn. Its state is then passed
through the rules of the grammar, and nothing else is kept of the expression.
-/

namespace CalculatorTrials
namespace Generator

/-- Draw a literal before an observer. -/
def watchLiteral
    (generator : Generator)
    (observer : Observer State)
    (state : State) : Draw State := do
  let sign ← Draw.choose .unsigned [.plus, .minus]
  let state := observer.step state (.sign sign)
  let whole ← Draw.between 1 0 10
  let fraction ← Draw.between 2 0 999
  let state := observer.step state (.digits whole fraction)
  if ← Draw.oneIn generator.exponentOdds then
    let (marker, size) ← exponent
    return observer.step state (.exponent marker size)
  else
    return state

/-- Draw a chain of operands before an observer. -/
def watchChain
    (observer : Observer State)
    (operator : Draw Operator)
    (operand : State → Draw State)
    (state : State) : Draw State := do
  let state ← operand state
  Draw.loop (fun state => do
    let symbol ← operator
    operand (observer.step state (.operator symbol))) state

/-- Draw a term before an observer, of primaries that it watches. -/
def watchTermOf
    (observer : Observer State)
    (primary : State → Draw State) : State → Draw State :=
  watchChain observer (.multiplicative <$> Draw.choose .mul [.div]) primary

/-- Draw an expression before an observer, of terms that it watches. -/
def watchExpressionOf
    (observer : Observer State)
    (term : State → Draw State) : State → Draw State :=
  watchChain observer (.additive <$> Draw.choose .add [.sub]) term

/-- Draw a primary before an observer. -/
def watchPrimary
    (generator : Generator)
    (observer : Observer State) : (room : Nat) → State → Draw State
  | 0, state => generator.watchLiteral observer state
  | room + 1, state => do
      if ← Draw.oneIn generator.groupOdds then
        let primary := generator.watchPrimary observer room
        let state ← watchExpressionOf observer (watchTermOf observer primary)
          (observer.step state .openGroup)
        return observer.step state .closeGroup
      else generator.watchLiteral observer state

/-- Draw from a rule before an observer. The result is the observer's state. -/
def watch
    (generator : Generator)
    (observer : Observer State)
    (rule : Rule) : Draw State :=
  let primary := generator.watchPrimary observer generator.maxDepth
  let term := watchTermOf observer primary
  match rule with
  | .primary => primary observer.start
  | .term => term observer.start
  | .expression => watchExpressionOf observer term observer.start

end Generator
end CalculatorTrials
