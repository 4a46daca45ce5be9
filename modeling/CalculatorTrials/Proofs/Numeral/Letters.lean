import CalculatorTrials.Calculation.Grammar
import CalculatorTrials.Decimal.Numeral

/-!
# Letters of numerals

The letters of a list and the characters they are written with: digits denote a
number from left to right, and the scan of a numeral treats a letter as its
terminal says.
-/

namespace CalculatorTrials
namespace Grammar

/-! ## Characters -/

@[simp] theorem characters_nil : characters [] = [] := rfl

@[simp] theorem characters_cons (letter : Letter) (letters : List Letter) :
    characters (letter :: letters) =
      letter.character :: characters letters := rfl

@[simp] theorem characters_append (first second : List Letter) :
    characters (first ++ second) = characters first ++ characters second :=
  List.map_append

@[simp] theorem length_characters (letters : List Letter) :
    (characters letters).length = letters.length :=
  List.length_map ..

/-- A letter is written with a character that its terminal admits. -/
theorem Letter.admits_of_terminal
    {letter : Letter}
    {terminal : Terminal}
    (stands : letter.terminal = terminal) :
    terminal.admits letter.character = true :=
  stands ▸ letter.admitted

/-- No letter ends a line of input. -/
theorem Letter.character_ne_terminator (letter : Letter) :
    letter.character ≠ '\n' ∧ letter.character ≠ '\r' := by
  obtain ⟨terminal, character, admitted⟩ := letter
  constructor
  · rintro rfl
    cases terminal <;> cases admitted
  · rintro rfl
    cases terminal <;> cases admitted

/-! ## Single letters -/

namespace Letter

/-- The letter that opens a group. -/
def opening : Letter := ⟨.openGroup, '(', rfl⟩

/-- The letter that closes a group. -/
def closing : Letter := ⟨.closeGroup, ')', rfl⟩

/-- The sign of an operand that is left as it is. -/
def plus : Letter := ⟨.plus, '+', rfl⟩

/-- The sign of an operand that is negated. -/
def minus : Letter := ⟨.minus, '-', rfl⟩

/-- A zero. -/
def zero : Letter := ⟨.digit, '0', rfl⟩

/-- The point of a numeral. -/
def point : Letter := ⟨.point, '.', rfl⟩

/-- The small letter of an exponent. -/
def lowerExponent : Letter := ⟨.exponentLetter, 'e', rfl⟩

/-- The capital letter of an exponent. -/
def upperExponent : Letter := ⟨.exponentLetter, 'E', rfl⟩

/-- The sign of an exponent that is left as it is. -/
def exponentPlus : Letter := ⟨.exponentSign, '+', rfl⟩

/-- The sign of an exponent that is negated. -/
def exponentMinus : Letter := ⟨.exponentSign, '-', rfl⟩

/-- The letter of an operator. -/
def ofOperator (operator : Operator) : Letter where
  terminal := Grammar.terminal operator
  character := operator.character
  admitted := by
    cases operator using Operator.cases_four <;> rfl

end Letter

/-! ## Digits -/

@[simp] theorem digits_nil : Digits [] := by
  intro letter member
  cases member

@[simp] theorem digits_cons (letter : Letter) (letters : List Letter) :
    Digits (letter :: letters) ↔
      letter.terminal = .digit ∧ Digits letters :=
  List.forall_mem_cons

@[simp] theorem digits_append (first second : List Letter) :
    Digits (first ++ second) ↔ Digits first ∧ Digits second :=
  List.forall_mem_append

/-- Digits behind others are read on from the number of the others. -/
theorem natural_append (first second : List Letter) :
    natural (first ++ second) =
      Nat.ofDigitChars 10 (characters second) (natural first) := by
  rw [natural, characters_append, Nat.ofDigitChars_append]
  rfl

/-- One more digit counts for one, and what was read before for ten times as
much. -/
theorem natural_append_singleton (letters : List Letter) (letter : Letter) :
    natural (letters ++ [letter]) =
      10 * natural letters + (letter.character.toNat - '0'.toNat) := by
  rw [natural_append, characters_cons, characters_nil,
    Nat.ofDigitChars_cons, Nat.ofDigitChars_nil]

@[simp] theorem natural_singleton (letter : Letter) :
    natural [letter] = letter.character.toNat - '0'.toNat := by
  rw [← List.nil_append [letter], natural_append_singleton]
  simp [natural]

end Grammar

/-! ## What a scan reads -/

namespace Numeral

open Grammar

/-- A character that stands for a digit has a number. -/
theorem digit?_of_digit
    {letter : Letter}
    (stands : letter.terminal = .digit) :
    digit? letter.character =
      some (letter.character.toNat - '0'.toNat) :=
  if_pos (Letter.admits_of_terminal stands)

/-- A character with a number is a digit. -/
theorem isDigit_of_digit?
    {character : Char}
    {digit : Nat}
    (numbered : digit? character = some digit) :
    character.isDigit = true ∧ digit = character.toNat - '0'.toNat := by
  unfold digit? at numbered
  split at numbered
  · next isDigit =>
      exact ⟨isDigit, (Option.some.inj numbered).symm⟩
  · cases numbered

/-- The letters of a numeral's first characters, from the sight of a scan. -/
def Scan.Holds : Scan → List Letter → Prop
  | .whole digits, letters =>
      Digits letters ∧ letters ≠ [] ∧ digits = natural letters
  | .point, letters =>
      ∃ point, point.terminal = .point ∧ letters = [point]
  | .fraction digits places, letters =>
      ∃ left point right,
        letters = left ++ point :: right ∧ Digits left ∧
          point.terminal = .point ∧ Digits right ∧
          (left ≠ [] ∨ right ≠ []) ∧ digits = natural (left ++ right) ∧
          places = right.length
  | .marker digits places, letters =>
      ∃ mantissa left right marker,
        letters = mantissa ++ [marker] ∧ Mantissa mantissa left right ∧
          marker.terminal = .exponentLetter ∧
          digits = natural (left ++ right) ∧ places = right.length
  | .signed digits places negative, letters =>
      ∃ mantissa left right marker sign,
        letters = mantissa ++ [marker, sign] ∧ Mantissa mantissa left right ∧
          marker.terminal = .exponentLetter ∧
          sign.terminal = .exponentSign ∧
          digits = natural (left ++ right) ∧ places = right.length ∧
          negative = decide (sign.character = '-')
  | .exponent digits places negative power, letters =>
      ∃ mantissa left right marker signs exponent,
        letters = mantissa ++ marker :: (signs ++ exponent) ∧
          Mantissa mantissa left right ∧
          marker.terminal = .exponentLetter ∧
          digits = natural (left ++ right) ∧ places = right.length ∧
          ((signs = [] ∧ negative = false) ∨
            ∃ sign, signs = [sign] ∧ sign.terminal = .exponentSign ∧
              negative = decide (sign.character = '-')) ∧
          Digits exponent ∧ exponent ≠ [] ∧ power = natural exponent

end Numeral
end CalculatorTrials
