import CalculatorTrials.Expression.Observer

/-!
# Shapes

The shape of an expression is what remains when the digits of its literals are
left out. It is named by a 64-bit word that every event of the expression has
been mixed into.
-/

namespace CalculatorTrials
namespace Shape

/-- Mix a word into a hash. -/
def mix (hash word : UInt64) : UInt64 :=
  ((hash <<< 5 ||| hash >>> 59) ^^^ word) * 0x517cc1b727220a95

/-- The hash of two words. -/
def hashPair (first second : UInt64) : UInt64 :=
  mix (mix 0 first) second

/-- The word of an event. Numbers leave no trace in it. -/
def code : Event → UInt64
  | .openGroup => 0
  | .closeGroup => 1
  | .operator operator => hashPair 2 operator.index.toUInt64
  | .sign sign => hashPair 3 sign.index.toUInt64
  | .digits _ _ => 4
  | .exponent marker _ => hashPair 5 marker.index.toUInt64

end Shape

namespace Observer

/-- The observer of the shape. -/
def shape : Observer UInt64 where
  start := 0xffffffffffffffff
  step hash event := Shape.hashPair (Shape.code event) hash

end Observer
end CalculatorTrials
