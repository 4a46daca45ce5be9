import CalculatorTrials.Decimal.Layout
import CalculatorTrials.Proofs.Numeral.Value

/-!
# Layouts of decimal numbers

Each of the three layouts of a decimal number is a numeral of the grammar that
denotes the very same digits and exponent.
-/

namespace CalculatorTrials
namespace Decimal

open Grammar

/-! ## Layouts -/

theorem toList_toString (number : Nat) :
    (toString number).toList = Nat.toDigits 10 number := by
  rw [Nat.toString_eq_repr, Nat.toList_repr]

/-- The exponent of a layout. -/
theorem exists_exponent (power : Int) :
    ∃ letters,
      characters letters = 'e' :: (toString power).toList ∧
        Exponent letters power := by
  cases power with
  | ofNat size =>
      have written : (toString (Int.ofNat size)).toList =
          Nat.toDigits 10 size := toList_toString size
      rw [written]
      exact exists_unsigned_exponent .lowerExponent rfl size
  | negSucc size =>
      have written : (toString (Int.negSucc size)).toList =
          '-' :: Nat.toDigits 10 (size + 1) := by
        rw [← toList_toString]
        simp [Int.toString_eq_repr, Int.repr]
      rw [written]
      exact exists_signed_exponent .lowerExponent .exponentMinus rfl rfl
        (size + 1)

/-- A point among digits. -/
theorem numeral_split
    {left right : List Letter}
    {number : Decimal}
    (areDigits : Digits (left ++ right))
    (nonempty : left ++ right ≠ [])
    (denotes : natural (left ++ right) = number.digits)
    (places : -(right.length : Int) = number.exponent) :
    Grammar.Numeral (left ++ Letter.point :: right) number := by
  obtain ⟨leftDigits, rightDigits⟩ := (digits_append ..).mp areDigits
  have someDigits : left ≠ [] ∨ right ≠ [] := by
    simpa [Classical.or_iff_not_imp_left] using nonempty
  have isMantissa : Mantissa (left ++ Letter.point :: right) left right :=
    .fraction leftDigits rfl rightDigits someDigits
  have fraction := Grammar.Numeral.intro isMantissa .absent
  obtain ⟨digits, exponent⟩ := number
  simp only at denotes places
  rw [List.append_nil, denotes, Int.zero_sub, places] at fraction
  exact fraction

/-- Zeros in front of digits count for nothing. -/
theorem natural_replicate_append (count : Nat) (letters : List Letter) :
    natural (List.replicate count Letter.zero ++ letters) = natural letters := by
  have zeros : natural (List.replicate count Letter.zero) = 0 := by
    rw [natural, characters, List.map_replicate]
    exact Nat.ofDigitChars_replicate_zero.trans (Nat.mul_zero _)
  rw [natural_append_eq, zeros, Nat.zero_mul, Nat.zero_add]

/-- The digits of a number with a point behind the first of them and with an
exponent. -/
theorem exists_numeral_scientific
    {letters : List Letter}
    {number : Decimal}
    (areDigits : Digits letters)
    (nonempty : letters ≠ [])
    (denotes : natural letters = number.digits) :
    ∃ written,
      characters written =
          scientific (characters letters)
            (letters.length + number.exponent - 1) ∧
        Grammar.Numeral written number := by
  obtain ⟨exponent, exponentText, isExponent⟩ :=
    exists_exponent (letters.length + number.exponent - 1)
  obtain ⟨digits, power⟩ := number
  simp only at denotes
  match letters with
  | [] => exact absurd rfl nonempty
  | [only] =>
      have numeral := Grammar.Numeral.intro (.whole areDigits nonempty)
        isExponent
      refine ⟨[only] ++ exponent, ?_, ?_⟩
      · rw [characters_append, exponentText]
        rfl
      · have samePower : ([only].length : Int) + power - 1 -
            ([] : List Letter).length = power := by
          simp only [List.length_cons, List.length_nil]
          omega
        rw [List.append_nil, denotes, samePower] at numeral
        exact numeral
  | first :: second :: rest =>
      obtain ⟨firstDigit, others⟩ := (digits_cons ..).mp areDigits
      have isFirst : Digits [first] := by
        simp [firstDigit]
      have isMantissa :
          Mantissa ([first] ++ Letter.point :: second :: rest) [first]
            (second :: rest) :=
        .fraction isFirst rfl others (.inl (List.cons_ne_nil _ _))
      have numeral := Grammar.Numeral.intro isMantissa isExponent
      refine ⟨[first] ++ Letter.point :: second :: rest ++ exponent, ?_, ?_⟩
      · rw [characters_append, exponentText]
        rfl
      · have sameDigits : natural ([first] ++ second :: rest) = digits :=
          denotes
        have samePower :
            ((first :: second :: rest).length : Int) + power - 1 -
                (second :: rest).length =
              power := by
          rw [List.length_cons]
          omega
        rw [sameDigits, samePower] at numeral
        exact numeral

/-- The layout of a decimal number is a numeral of that number. -/
theorem exists_numeral_layout (number : Decimal) :
    ∃ letters,
      characters letters = number.layout ∧
        Grammar.Numeral letters number := by
  obtain ⟨letters, areDigits, nonempty, text, denotes⟩ :=
    exists_digits_toDigits number.digits
  have sameText : (toString number.digits).toList = characters letters := by
    rw [toList_toString, text]
  have sameLength : (toString number.digits).toList.length =
      letters.length := by
    rw [sameText, length_characters]
  have positiveLength : 0 < letters.length :=
    List.length_pos_iff.mpr nonempty
  simp only [layout, sameLength]
  split
  · next inside =>
      -- The point stands between two digits.
      let place := (letters.length + number.exponent).toNat
      refine ⟨letters.take place ++ Letter.point :: letters.drop place, ?_, ?_⟩
      · rw [sameText, characters, List.map_append, List.map_cons,
          List.map_take, List.map_drop]
        rfl
      · have whole := List.take_append_drop place letters
        apply numeral_split
        · rw [whole]
          exact areDigits
        · rw [whole]
          exact nonempty
        · rw [whole]
          exact denotes
        · rw [List.length_drop]
          omega
  · split
    · next inFront =>
        -- The point stands in front of all digits.
        let zeros := List.replicate
          (-(letters.length + number.exponent)).toNat Letter.zero
        have areZeros : Digits zeros := by
          intro letter member
          rw [List.eq_of_mem_replicate member]
          rfl
        refine ⟨[Letter.zero] ++ Letter.point :: (zeros ++ letters), ?_, ?_⟩
        · rw [sameText]
          simp [zeros, characters, Letter.zero, Letter.point]
        · apply numeral_split
          · simp [areZeros, areDigits, Letter.zero]
          · exact List.cons_ne_nil _ _
          · rw [natural_append_eq, natural_replicate_append, denotes]
            simp [Letter.zero]
          · rw [List.length_append, List.length_replicate]
            omega
    · rw [sameText]
      exact exists_numeral_scientific areDigits nonempty denotes

end Decimal
end CalculatorTrials
