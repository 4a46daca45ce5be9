import CalculatorTrials.Entropy.Draw
import CalculatorTrials.Expression.Derivation

/-!
# Generating expressions

A generator draws derivations from bytes. Where the bytes have come to an end it
takes the shortest way out: a literal and not a group, no exponent, no further
operand. The depth to which groups nest is bounded, and at the bound every
primary is a literal.
-/

namespace CalculatorTrials

/-- The settings of a generator. -/
structure Generator where
  /-- The greatest depth to which groups nest. -/
  maxDepth : Nat := 8
  /-- One primary in so many is a group, below the greatest depth. -/
  groupOdds : UInt16 := 10
  /-- One literal in so many has an exponent. -/
  exponentOdds : UInt16 := 2
  deriving DecidableEq, Repr

namespace Generator

/-- An exponent. -/
def exponent : Draw (Marker × Nat) := do
  let marker ← Draw.choose .lower
    [.upper, .lowerPlus, .lowerMinus, .upperPlus, .upperMinus]
  let size ← Draw.between 1 0 10
  return (marker, size)

/-- A literal. -/
def literal (generator : Generator) : Draw Literal := do
  let sign ← Draw.choose .unsigned [.plus, .minus]
  let whole ← Draw.between 1 0 10
  let fraction ← Draw.between 2 0 999
  if ← Draw.oneIn generator.exponentOdds then
    return ⟨sign, whole, fraction, some (← exponent)⟩
  else
    return ⟨sign, whole, fraction, none⟩

/-- A term of given primaries. -/
def termOf
    (primary : Draw (Derivation .primary)) : Draw (Derivation .term) := do
  let first ← primary
  Draw.chain .product (Draw.choose .mul [.div]) primary (.factor first)

/-- An expression of given terms. -/
def expressionOf
    (term : Draw (Derivation .term)) : Draw (Derivation .expression) := do
  let first ← term
  Draw.chain .sum (Draw.choose .add [.sub]) term (.summand first)

/-- A primary whose groups nest to at most a given depth. -/
def primary (generator : Generator) : (room : Nat) → Draw (Derivation .primary)
  | 0 => .literal <$> generator.literal
  | room + 1 => do
      if ← Draw.oneIn generator.groupOdds then
        .group <$> expressionOf (termOf (generator.primary room))
      else
        .literal <$> generator.literal

/-- A derivation from a rule. -/
def derive (generator : Generator) : (rule : Rule) → Draw (Derivation rule)
  | .primary => generator.primary generator.maxDepth
  | .term => termOf (generator.primary generator.maxDepth)
  | .expression => expressionOf (termOf (generator.primary generator.maxDepth))

end Generator
end CalculatorTrials
