import CalculatorTrials.Pattern.Mode

/-!
# Escapes in patterns

A backslash gives the character behind it another meaning: a character that
stands for itself, a character by its code, a class or a test.
-/

namespace CalculatorTrials
namespace Pattern

/-- What an escape stands for. -/
inductive Escape where
  /-- A character, which may be written as the code of a single byte. -/
  | character (value : Char) (isByte : Bool)
  | characterClass (value : CharacterClass)
  | test (pattern : Pattern)

namespace Escape

/-- The value of a hexadecimal digit. -/
def hexDigit (digit : Char) : Nat :=
  if digit.isDigit then digit.toNat - '0'.toNat
  else digit.toLower.toNat - 'a'.toNat + 10

/-- The character of a hexadecimal number. One with nine digits or more that
count is not the code of a character. -/
def ofHex? (digits : List Char) : Option Char :=
  let digits := (digits.dropWhile (· == '0')).take 9
  let code := digits.foldl (fun code digit => 16 * code + hexDigit digit) 0
  if code.isValidChar then some (Char.ofNat code) else none

/-- Read the code of a character, in braces or as a fixed number of digits. -/
def readCode
    (mode : Mode)
    (count : Nat)
    (text : List Char) : Option (Escape × List Char) := do
  let isDigit := CharacterClass.xdigit.contains
  match mode.skip text with
  | '\x7b' :: rest =>
      let (digits, rest) := mode.span isDigit (mode.skip rest)
      guard (!digits.isEmpty)
      match rest with
      | '\x7d' :: rest =>
          return (character (← ofHex? digits) false, mode.skip rest)
      | _ => none
  | text =>
      let (digits, rest) ← mode.take isDigit count text
      return (character (← ofHex? digits) (count = 2), rest)

/-- The test with a name. -/
def wordTestOf? (name : List Char) : Option WordTest :=
  match String.ofList name with
  | "start" => some .start
  | "end" => some .stop
  | "start-half" => some .startHalf
  | "end-half" => some .stopHalf
  | _ => none

/-- Read a test for the edge of a word, which may have a name in braces. Braces
that no name begins in are none of its. -/
def readEdge
    (mode : Mode)
    (text : List Char) : Option (Escape × List Char) := do
  let isNamePart (character : Char) := character.isAlpha || character == '-'
  match text with
  | '\x7b' :: rest =>
      match mode.span isNamePart (mode.skip rest) with
      | ([], _) => return (test (mode.wordTest .edge), text)
      | (name, '\x7d' :: rest) =>
          return (test (mode.wordTest (← wordTestOf? name)), rest)
      | _ => none
  | _ => return (test (mode.wordTest .edge), text)

/-- The class of a letter. Its letter in upper case would stand for the
characters outside it, which are not all ASCII. -/
def classOf? (mode : Mode) (letter : Char) : Option CharacterClass := do
  guard (!mode.isOn .unicode)
  match letter with
  | 'd' => return .digit
  | 's' => return .space
  | 'w' => return .word
  | _ => none

/-- The control character of a letter. -/
def controlOf? : Char → Option Char
  | 'a' => some '\x07'
  | 'f' => some '\x0c'
  | 't' => some '\t'
  | 'n' => some '\n'
  | 'r' => some '\r'
  | 'v' => some '\x0b'
  | _ => none

/-- Whether a character stands for itself behind a backslash. -/
def standsForItself (character : Char) : Bool :=
  character.toNat ≤ 0x7F && !character.isAlphanum && character != '<' &&
    character != '>'

/-- Read what stands behind a backslash. -/
def read (mode : Mode) : List Char → Option (Escape × List Char)
  | [] => none
  | letter :: rest =>
      if standsForItself letter then some (character letter false, rest)
      else
        match letter with
        | 'x' => readCode mode 2 rest
        | 'u' => readCode mode 4 rest
        | 'U' => readCode mode 8 rest
        | 'A' => some (test (.test .textStart), rest)
        | 'z' => some (test (.test .textEnd), rest)
        | 'b' => readEdge mode rest
        | 'B' => some (test (mode.wordTest .noEdge), rest)
        | '<' => some (test (mode.wordTest .start), rest)
        | '>' => some (test (mode.wordTest .stop), rest)
        | _ =>
            match controlOf? letter with
            | some control => some (character control false, rest)
            | none => (classOf? mode letter).map (characterClass ·, rest)

end Escape
end Pattern
end CalculatorTrials
