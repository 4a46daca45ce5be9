import CalculatorTrials.Proofs.Binary64.Bits
import CalculatorTrials.Proofs.Decimal.Layout
import CalculatorTrials.Proofs.Decimal.Shortest

/-!
# Texts of numbers read back

Reading the text of a number gives the number, whichever form its text has. Only
the sign of zero is lost.
-/

namespace CalculatorTrials
namespace Binary64

open Grammar

/-- The sign in the text of a number. -/
def signText (number : Float) : List Char :=
  if isNegative number then ['-'] else []

/-- The text that a number has: a word, or a numeral that denotes its
magnitude behind its sign. Zero has no sign. -/
inductive Written (number : Float) : List Char → Prop where
  | nan :
      infinity < magnitude number →
      Written number ['n', 'a', 'n']
  | infinite :
      magnitude number = infinity →
      Written number (signText number ++ ['i', 'n', 'f'])
  | zero :
      magnitude number = 0 →
      Written number ['0']
  | numeral :
      0 < magnitude number →
      magnitude number < infinity →
      Grammar.Numeral letters decimal →
      decimal.magnitude = magnitude number →
      Written number (signText number ++ characters letters)

/-! ## What is written -/

/-- The digits of a whole number are a numeral. -/
theorem exists_numeral_whole (whole : Nat) :
    ∃ letters,
      characters letters = (toString whole).toList ∧
        Grammar.Numeral letters ⟨whole, 0⟩ := by
  obtain ⟨letters, areDigits, nonempty, text, denotes⟩ :=
    exists_digits_toDigits whole
  have numeral := Grammar.Numeral.intro (.whole areDigits nonempty) .absent
  rw [List.append_nil, denotes] at numeral
  exact ⟨letters, by rw [text, Decimal.toList_toString], numeral⟩

/-- A magnitude that stands for a whole number is the one of its digits. -/
theorem magnitude_whole
    {size whole : Nat}
    (found : wholeBelow16? size = some whole)
    (nonzero : 0 < size)
    (finite : size < infinity) :
    Decimal.magnitude ⟨whole, 0⟩ = size := by
  simp only [wholeBelow16?] at found
  split at found
  · next isWhole =>
      obtain rfl := Option.some.inj found
      apply Decimal.RoundsTo.magnitude_eq _ nonzero finite
      apply Decimal.roundsTo_of_eq_units _ nonzero
      have division := Nat.div_add_mod (units size) unitsInOne
      rw [isWhole.1, Nat.add_zero, Nat.mul_comm] at division
      change units size / unitsInOne * 10 ^ 0 * unitsInOne = units size * 10 ^ 0
      rw [Nat.pow_zero, Nat.mul_one, Nat.mul_one, division]
  · cases found

/-- Zero is the only number that is written as zero. -/
theorem eq_zero_of_wholeBelow16?
    {size : Nat}
    (found : wholeBelow16? size = some 0) :
    size = 0 := by
  simp only [wholeBelow16?] at found
  split at found
  · next isWhole =>
      have quotient := Option.some.inj found
      have division := Nat.div_add_mod (units size) unitsInOne
      rw [quotient, isWhole.1] at division
      apply Nat.eq_zero_of_not_pos
      intro positive
      have grows := units_pred_lt positive
      rw [← division] at grows
      exact Nat.not_lt_zero _ grows
  · cases found

/-- Zero is written as zero. -/
theorem pos_of_wholeBelow16?
    {size : Nat}
    (notZero : wholeBelow16? size ≠ some 0) :
    0 < size := by
  apply Nat.pos_of_ne_zero
  rintro rfl
  have found : wholeBelow16? 0 = some 0 := by
    decide +kernel
  exact notZero found

/-- The text of a number is written as it should be. -/
theorem written_text (number : Float) : Written number (text number) := by
  simp only [text]
  split
  · next above => exact .nan above
  · next notAbove =>
      split
      · next infinite => exact .infinite infinite
      · next notInfinite =>
          have finite : magnitude number < infinity := by
            omega
          split
          · next found => exact .zero (eq_zero_of_wholeBelow16? found)
          · next whole notZero found =>
              have nonzero : 0 < magnitude number := by
                apply pos_of_wholeBelow16?
                rw [found]
                exact fun same => notZero (Option.some.inj same)
              obtain ⟨letters, written, isNumeral⟩ := exists_numeral_whole whole
              rw [← written]
              exact .numeral nonzero finite isNumeral
                (magnitude_whole found nonzero finite)
          · next notWhole =>
              have nonzero : 0 < magnitude number := by
                apply pos_of_wholeBelow16?
                rw [notWhole]
                exact nofun
              obtain ⟨letters, written, isNumeral⟩ :=
                (Decimal.shortest (magnitude number)).exists_numeral_layout
              rw [← written]
              exact .numeral nonzero finite isNumeral
                (Decimal.magnitude_shortest nonzero finite)

/-! ## What is read -/

/-- A text behind the sign of a number is read as the number, if it is read as
the number's magnitude. -/
theorem parse?_signText
    {number : Float}
    {text : List Char}
    (bounded : magnitude number ≤ infinity)
    (unsigned :
      parseUnsigned? text = some (ofMagnitude (magnitude number)))
    (same : parse? text = parseUnsigned? text) :
    parse? (signText number ++ text) = some number := by
  have whole := eq_ofMagnitude bounded
  rw [signText]
  split at whole
  · next negative =>
      rw [if_pos negative]
      calc
        parse? (['-'] ++ text) = (parseUnsigned? text).map (- ·) := rfl
        _ = some (-ofMagnitude (magnitude number)) := by
          rw [unsigned]
          rfl
        _ = some number := congrArg some whole.symm
  · next positive =>
      rw [if_neg positive, List.nil_append, same, unsigned]
      exact congrArg some whole.symm

/-- The text of a number is read as the number, and that of zero as zero. -/
theorem Written.parse?_eq
    {number : Float}
    {text : List Char}
    (written : Written number text) :
    parse? text = some (if number == 0 then 0 else number) := by
  have equals := beq_zero_iff number
  cases written with
  | nan above =>
      have notZero : ¬(number == 0) = true := by
        rw [equals]
        omega
      rw [if_neg notZero, eq_notANumber above]
      rfl
  | infinite infinite =>
      have notZero : ¬(number == 0) = true := by
        rw [equals, infinite]
        decide
      rw [if_neg notZero]
      apply parse?_signText (Nat.le_of_eq infinite)
      · rw [infinite]
        rfl
      · rfl
  | zero isZero =>
      rw [if_pos (equals.mpr isZero)]
      rfl
  | numeral nonzero finite isNumeral same =>
      have notZero : ¬(number == 0) = true := by
        rw [equals]
        omega
      rw [if_neg notZero]
      apply parse?_signText (Nat.le_of_lt finite)
      · rw [parseUnsigned?_of_numeral isNumeral, Decimal.toFloat, same]
      · rw [parse?_of_numeral isNumeral, parseUnsigned?_of_numeral isNumeral]

end Binary64
end CalculatorTrials
