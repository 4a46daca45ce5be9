import CalculatorTrials.Text.Combining
import CalculatorTrials.Text.Unprintable

/-!
# Quoted texts

A quoted text stands between double quotes and shows every character. Quotes
and backslashes, the four common control characters, and characters that would
not be seen or would change the look of their neighbour are written as escapes.
-/

namespace CalculatorTrials
namespace Text

/-- The number of a character between braces. -/
def codeEscape (character : Char) : List Char :=
  ['\\', 'u', '\x7b'] ++ Nat.toDigits 16 character.toNat ++ ['\x7d']

/-- A character of a quoted text. -/
def quotedCharacter (character : Char) : List Char :=
  if character = '"' ∨ character = '\\' then ['\\', character]
  else if character = '\t' then ['\\', 't']
  else if character = '\r' then ['\\', 'r']
  else if character = '\n' then ['\\', 'n']
  else if character = '\x00' then ['\\', '0']
  else if ' ' ≤ character ∧ character ≤ '~' then [character]
  else if isCombining character || isUnprintable character then
    codeEscape character
  else [character]

/-- The text between quotes. -/
def quoted (text : String) : String :=
  String.ofList ('"' :: text.toList.flatMap quotedCharacter ++ ['"'])

end Text
end CalculatorTrials
