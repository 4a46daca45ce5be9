/-!
# Places in a text

A place in a text is told by a line and a column, both counted from one. A line
feed is the last character of its line.
-/

namespace CalculatorTrials

/-- A place between two characters of a text. -/
structure Place where
  line : Nat
  /-- One more than the number of characters in front of it in its line. -/
  column : Nat
  deriving DecidableEq, Repr

namespace Place

/-- The place in front of all characters. -/
def start : Place := ⟨1, 1⟩

/-- The place behind one more character. -/
def next (place : Place) (character : Char) : Place :=
  if character = '\n' then ⟨place.line + 1, 1⟩
  else ⟨place.line, place.column + 1⟩

end Place
end CalculatorTrials
