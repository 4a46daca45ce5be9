import CalculatorTrials.Case
import CalculatorTrials.Entropy.Cursor
import CalculatorTrials.Generator.Watched

/-!
# Cases one after another

The cases of a seed can be made in order, each before an observer. The bytes of
all of them are read through one cursor into one buffer.
-/

namespace CalculatorTrials

/-- What is kept from case to case. -/
structure CaseIterator (State : Type) where
  generator : Generator
  observer : Observer State
  /-- The place in the key stream. -/
  cursor : KeyStream.Cursor
  /-- The bytes of the case before. -/
  buffer : List UInt8
  length_buffer : buffer.length = bytesPerCase

/-- The cases of a seed before an observer. -/
def Generator.iterate
    (generator : Generator)
    (observer : Observer State)
    (seed : UInt64) : CaseIterator State where
  generator := generator
  observer := observer
  cursor := .start seed
  buffer := List.replicate bytesPerCase 0
  length_buffer := List.length_replicate

namespace CaseIterator

/-- Make the next case. -/
def next (iterator : CaseIterator State) : State × CaseIterator State :=
  let filled := iterator.cursor.fill iterator.buffer
  (((iterator.generator.watch iterator.observer .expression).run filled.1).1,
    { iterator with
      cursor := filled.2
      buffer := filled.1
      length_buffer :=
        (iterator.cursor.length_fill _).trans iterator.length_buffer })

/-- Make a number of cases and keep none of them. -/
def skip (iterator : CaseIterator State) : (count : Nat) → CaseIterator State
  | 0 => iterator
  | count + 1 => iterator.next.2.skip count

/-- Make a number of cases. -/
def take (iterator : CaseIterator State) : (count : Nat) → List State
  | 0 => []
  | count + 1 => iterator.next.1 :: iterator.next.2.take count

end CaseIterator
end CalculatorTrials
