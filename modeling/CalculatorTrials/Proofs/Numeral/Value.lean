import CalculatorTrials.Binary64.Parse
import CalculatorTrials.Proofs.Numeral.Scan
import Mathlib.Algebra.Group.Nat.Defs

/-!
# Values of numerals

A numeral of the grammar is a text of a binary64 number: it starts with a digit
or a point, so it is neither signed nor one of the words. Texts that are made of
digits are numerals, whatever wrote them.
-/

namespace CalculatorTrials

open Grammar

namespace Binary64

/-- A digit has no lower case. -/
theorem toLower_of_isDigit
    {character : Char}
    (isDigit : character.isDigit = true) :
    character.toLower = character := by
  apply dif_neg
  intro isUpper
  have above := UInt32.le_iff_toNat_le.mp isUpper.1
  simp only [Char.isDigit, Bool.and_eq_true, decide_eq_true_eq, ge_iff_le,
    UInt32.le_iff_toNat_le] at isDigit
  exact absurd (Nat.le_trans above isDigit.2) (by decide)

/-- A character that a numeral can start with is no sign and starts none of the
words. -/
theorem toLower_of_first
    {letter : Letter}
    (isFirst : letter.terminal = .digit ∨ letter.terminal = .point) :
    letter.character ≠ '+' ∧ letter.character ≠ '-' ∧
      letter.character.toLower ≠ 'i' ∧ letter.character.toLower ≠ 'n' := by
  rcases isFirst with isDigit | isPoint
  · have isDigit : letter.character.isDigit = true :=
      Letter.admits_of_terminal isDigit
    rw [toLower_of_isDigit isDigit]
    refine ⟨?_, ?_, ?_, ?_⟩ <;>
      · intro same
        rw [same] at isDigit
        cases isDigit
  · rw [eq_of_beq (Letter.admits_of_terminal isPoint)]
    decide

/-- A text that starts with neither sign is read without one. -/
theorem parse?_cons
    {first : Char}
    (notPlus : first ≠ '+')
    (notMinus : first ≠ '-')
    (rest : List Char) :
    parse? (first :: rest) = parseUnsigned? (first :: rest) := by
  unfold parse?
  split
  · next same => exact absurd (List.cons.inj same).1 notPlus
  · next same => exact absurd (List.cons.inj same).1 notMinus
  · rfl

/-- Every numeral of the grammar is the text of its number. -/
theorem parseUnsigned?_of_numeral
    {letters : List Letter}
    {number : Decimal}
    (isNumeral : Grammar.Numeral letters number) :
    parseUnsigned? (characters letters) = some number.toFloat := by
  have reads := Numeral.read?_of_numeral isNumeral
  obtain ⟨_, ⟨first, rest, _, rfl, isFirst, _⟩, _⟩ :=
    Numeral.Scan.Begins.of_numeral isNumeral
  obtain ⟨_, _, notI, notN⟩ := toLower_of_first isFirst
  rw [parseUnsigned?, reads]
  simp [notI, notN]

theorem parse?_of_numeral
    {letters : List Letter}
    {number : Decimal}
    (isNumeral : Grammar.Numeral letters number) :
    parse? (characters letters) = some number.toFloat := by
  have reads := parseUnsigned?_of_numeral isNumeral
  obtain ⟨_, ⟨first, rest, _, rfl, isFirst, _⟩, _⟩ :=
    Numeral.Scan.Begins.of_numeral isNumeral
  obtain ⟨notPlus, notMinus, _⟩ := toLower_of_first isFirst
  rw [characters_cons, parse?_cons notPlus notMinus]
  exact reads

end Binary64

namespace Grammar

/-! ## Texts of digits -/

/-- A text of digits has letters. -/
theorem exists_digits
    {text : List Char}
    (areDigits : ∀ character ∈ text, character.isDigit = true) :
    ∃ letters, Digits letters ∧ characters letters = text := by
  induction text with
  | nil => exact ⟨[], digits_nil, rfl⟩
  | cons character text inductionHypothesis =>
      obtain ⟨isDigit, others⟩ := List.forall_mem_cons.mp areDigits
      obtain ⟨letters, digits, rfl⟩ := inductionHypothesis others
      exact ⟨⟨.digit, character, isDigit⟩ :: letters, by simp [digits], rfl⟩

/-- The decimal digits of a number have letters. -/
theorem exists_digits_toDigits (number : Nat) :
    ∃ letters, Digits letters ∧ letters ≠ [] ∧
      characters letters = Nat.toDigits 10 number ∧
      natural letters = number := by
  obtain ⟨letters, digits, same⟩ := exists_digits fun _ member =>
    Nat.isDigit_of_mem_toDigits (Nat.zero_lt_succ 9) (Nat.le_refl 10) member
  refine ⟨letters, digits, ?_, same, ?_⟩
  · rintro rfl
    exact Nat.toDigits_ne_nil same.symm
  · rw [natural, same, Nat.ofDigitChars_ten_toDigits]

/-- The exponent of a number that is not negative. -/
theorem exists_unsigned_exponent
    (marker : Letter)
    (isLetter : marker.terminal = .exponentLetter)
    (size : Nat) :
    ∃ letters,
      characters letters = marker.character :: Nat.toDigits 10 size ∧
        Exponent letters size := by
  obtain ⟨digits, areDigits, nonempty, text, number⟩ :=
    exists_digits_toDigits size
  have unsigned : Exponent (marker :: digits) (natural digits) :=
    .unsigned isLetter areDigits nonempty
  rw [number] at unsigned
  exact ⟨marker :: digits, congrArg (List.cons _) text, unsigned⟩

/-- The exponent of a number behind a sign. -/
theorem exists_signed_exponent
    (marker sign : Letter)
    (isLetter : marker.terminal = .exponentLetter)
    (isSign : sign.terminal = .exponentSign)
    (size : Nat) :
    ∃ letters,
      characters letters =
        marker.character :: sign.character :: Nat.toDigits 10 size ∧
      Exponent letters (if sign.character = '-' then -size else size) := by
  obtain ⟨digits, areDigits, nonempty, text, number⟩ :=
    exists_digits_toDigits size
  have signed : Exponent (marker :: sign :: digits) _ :=
    .signed isLetter isSign areDigits nonempty
  rw [number] at signed
  exact ⟨marker :: sign :: digits,
    congrArg (fun digits => _ :: _ :: digits) text, signed⟩

/-- Digits behind others move the others to the left. -/
theorem natural_append_eq (first second : List Letter) :
    natural (first ++ second) =
      natural first * 10 ^ second.length + natural second := by
  rw [natural_append, Nat.ofDigitChars_eq_ofDigitChars_zero, length_characters,
    Nat.mul_comm]
  rfl

end Grammar
end CalculatorTrials
