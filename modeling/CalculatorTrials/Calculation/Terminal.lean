/-!
# Terminals of the input language

The terminals name what may come next at a place of a line. They are listed in
the order of their texts, which is the order in which a report names them.
-/

namespace CalculatorTrials

/-- Whether a character is a blank of the input language. -/
def isBlank (character : Char) : Bool :=
  character == ' ' || character == '\t'

/-- What may come next at a place of a line. -/
inductive Terminal where
  | openGroup
  | closeGroup
  | times
  | plus
  | minus
  | point
  | divide
  | endOfLine
  | blank
  | exponentSign
  | digit
  | exponentLetter
  deriving DecidableEq, Repr

namespace Terminal

/-- All terminals, in the order of their texts. -/
def all : List Terminal :=
  [openGroup, closeGroup, times, plus, minus, point, divide, endOfLine, blank,
    exponentSign, digit, exponentLetter]

/-- The text of a terminal in a report. -/
def text : Terminal → String
  | openGroup => "\"(\""
  | closeGroup => "\")\""
  | times => "\"*\""
  | plus => "\"+\""
  | minus => "\"-\""
  | point => "\".\""
  | divide => "\"/\""
  | endOfLine => "EOF"
  | blank => "[' ' | '\\t']"
  | exponentSign => "['+' | '-']"
  | digit => "['0'..='9']"
  | exponentLetter => "['e' | 'E']"

/-- Whether a character can stand for a terminal. Some characters can stand for
two: `+` is an operator or a sign, and also the sign of an exponent. -/
def admits : Terminal → Char → Bool
  | openGroup, character => character == '('
  | closeGroup, character => character == ')'
  | times, character => character == '*'
  | plus, character => character == '+'
  | minus, character => character == '-'
  | point, character => character == '.'
  | divide, character => character == '/'
  | endOfLine, _ => false
  | blank, character => isBlank character
  | exponentSign, character => character == '+' || character == '-'
  | digit, character => character.isDigit
  | exponentLetter, character => character == 'e' || character == 'E'

end Terminal
end CalculatorTrials
