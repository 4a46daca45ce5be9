import CalculatorTrials.Expression.Derivation
import CalculatorTrials.Proofs.Numeral.Value
import Mathlib.Algebra.Group.Nat.Defs

/-!
# Texts of literals

A literal is written as a numeral of the grammar of lines behind its sign, and
the numeral is the text of the literal's number.
-/

namespace CalculatorTrials
namespace Literal

open Grammar

/-- The text of a literal without its sign. -/
def unsignedText (literal : Literal) : List Char :=
  { literal with sign := .unsigned }.events.flatMap Event.text

/-- A literal is written as its sign and the text without it. -/
theorem text_events (literal : Literal) :
    literal.events.flatMap Event.text =
      literal.sign.text ++ literal.unsignedText := by
  simp [unsignedText, events, Event.text, Sign.text]

/-- The digits in front of the exponent of a literal. -/
theorem exists_mantissa (whole fraction : Nat) :
    ∃ letters left right,
      characters letters =
        Nat.toDigits 10 whole ++ '.' :: Nat.toDigits 10 fraction ∧
      Mantissa letters left right ∧
      natural (left ++ right) =
        whole * 10 ^ (Nat.toDigits 10 fraction).length + fraction ∧
      right.length = (Nat.toDigits 10 fraction).length := by
  obtain ⟨left, leftDigits, leftNonempty, leftText, leftNumber⟩ :=
    exists_digits_toDigits whole
  obtain ⟨right, rightDigits, _, rightText, rightNumber⟩ :=
    exists_digits_toDigits fraction
  have sameLength : right.length = (Nat.toDigits 10 fraction).length := by
    rw [← rightText, length_characters]
  refine ⟨left ++ .point :: right, left, right, ?_,
    .fraction leftDigits rfl rightDigits (.inl leftNonempty), ?_, sameLength⟩
  · rw [characters_append, characters_cons, leftText, rightText]
    rfl
  · rw [natural_append_eq, leftNumber, rightNumber, sameLength]

/-- The exponent of a literal. -/
theorem exists_exponent (literal : Literal) :
    ∃ letters,
      characters letters =
        literal.exponent.toList.flatMap
          (fun (marker, size) => (Event.exponent marker size).text) ∧
      Exponent letters literal.power := by
  obtain ⟨sign, whole, fraction, exponent⟩ := literal
  cases exponent with
  | none => exact ⟨[], rfl, .absent⟩
  | some exponent =>
      obtain ⟨marker, size⟩ := exponent
      have written :
          (some (marker, size)).toList.flatMap
              (fun (marker, size) => (Event.exponent marker size).text) =
            marker.text ++ Nat.toDigits 10 size := by
        simp [Event.text]
      rw [written]
      cases marker with
      | lower => exact exists_unsigned_exponent .lowerExponent rfl size
      | upper => exact exists_unsigned_exponent .upperExponent rfl size
      | lowerPlus =>
          exact exists_signed_exponent .lowerExponent .exponentPlus rfl rfl size
      | lowerMinus =>
          exact exists_signed_exponent .lowerExponent .exponentMinus rfl rfl
            size
      | upperPlus =>
          exact exists_signed_exponent .upperExponent .exponentPlus rfl rfl size
      | upperMinus =>
          exact exists_signed_exponent .upperExponent .exponentMinus rfl rfl
            size

/-- The text of a literal without its sign is a numeral of its number. -/
theorem exists_numeral (literal : Literal) :
    ∃ letters,
      characters letters = literal.unsignedText ∧
        Grammar.Numeral letters literal.unsigned := by
  obtain ⟨mantissa, left, right, mantissaText, isMantissa, digits, places⟩ :=
    exists_mantissa literal.whole literal.fraction
  obtain ⟨exponent, exponentText, isExponent⟩ := literal.exists_exponent
  refine ⟨mantissa ++ exponent, ?_, ?_⟩
  · rw [characters_append, mantissaText, exponentText]
    cases written : literal.exponent <;>
      simp [unsignedText, events, Event.text, Sign.text, written]
  · have numeral := Grammar.Numeral.intro isMantissa isExponent
    rw [digits, places] at numeral
    exact numeral

/-- The number of a literal is the one that its text without the sign denotes. -/
theorem parse?_unsignedText (literal : Literal) :
    Binary64.parse? literal.unsignedText = some literal.unsigned.toFloat := by
  obtain ⟨letters, text, isNumeral⟩ := literal.exists_numeral
  rw [← text]
  exact Binary64.parse?_of_numeral isNumeral

end Literal
end CalculatorTrials
