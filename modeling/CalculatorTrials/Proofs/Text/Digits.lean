import Mathlib.Order.Basic

/-!
# Starts of texts

What a text does not start with, and how far the digits of a number reach in a
text that goes on behind them.
-/

namespace CalculatorTrials
namespace Text

/-- The text does not start with a character of the kind. -/
def Without (kind : Char → Bool) (text : List Char) : Prop :=
  ∀ character ∈ text.head?, kind character = false

theorem without_nil (kind : Char → Bool) : Without kind [] := nofun

theorem without_cons
    {kind : Char → Bool}
    {character : Char}
    (free : kind character = false)
    (rest : List Char) :
    Without kind (character :: rest) := by
  intro first isFirst
  obtain rfl := Option.some.inj isFirst
  exact free

/-- The characters of a kind end where others begin. -/
theorem takeWhile_append_eq
    {kind : Char → Bool}
    {front rest : List Char}
    (areKind : ∀ character ∈ front, kind character = true)
    (without : Without kind rest) :
    (front ++ rest).takeWhile kind = front ∧
      (front ++ rest).dropWhile kind = rest := by
  rw [List.takeWhile_append_of_pos areKind, List.dropWhile_append_of_pos areKind]
  cases rest with
  | nil => simp
  | cons character rest => simp [without character rfl]

/-! ## Digits of numbers -/

theorem isDigit_of_mem_toDigits
    {number : Nat}
    {character : Char}
    (member : character ∈ Nat.toDigits 10 number) :
    character.isDigit = true :=
  Nat.isDigit_of_mem_toDigits (Nat.zero_lt_succ 9) (Nat.le_refl 10) member

theorem ne_of_isDigit
    {character other : Char}
    (isDigit : character.isDigit = true)
    (notDigit : other.isDigit = false) :
    character ≠ other := by
  rintro rfl
  rw [isDigit] at notDigit
  cases notDigit

/-- The text of a number starts with a digit. -/
theorem exists_toDigits_append_eq_cons (number : Nat) (rest : List Char) :
    ∃ digit later,
      Nat.toDigits 10 number ++ rest = digit :: later ∧
        digit.isDigit = true := by
  cases written : Nat.toDigits 10 number with
  | nil => exact absurd written Nat.toDigits_ne_nil
  | cons digit digits =>
      have member : digit ∈ Nat.toDigits 10 number := by
        rw [written]
        exact List.mem_cons_self ..
      exact ⟨digit, digits ++ rest, rfl, isDigit_of_mem_toDigits member⟩

/-- The digits of a number do not start with anything but a digit. -/
theorem without_toDigits
    {kind : Char → Bool}
    (notDigit : ∀ character, character.isDigit = true → kind character = false)
    (number : Nat)
    (rest : List Char) :
    Without kind (Nat.toDigits 10 number ++ rest) := by
  obtain ⟨digit, later, same, isDigit⟩ :=
    exists_toDigits_append_eq_cons number rest
  rw [same]
  exact without_cons (notDigit digit isDigit) later

/-- The digits of a number that is not zero start with another digit than
zero. -/
theorem exists_toDigits_eq_cons
    {number : Nat}
    (positive : 0 < number) :
    ∃ digit digits,
      Nat.toDigits 10 number = digit :: digits ∧ digit ≠ '0' := by
  induction number using Nat.strongRecOn with
  | ind number inductionHypothesis =>
      rcases Nat.lt_or_ge number 10 with below | atLeast
      · refine ⟨number.digitChar, [], Nat.toDigits_of_lt_base below, ?_⟩
        exact fun zero => Nat.ne_of_gt positive (Nat.digitChar_eq_zero.mp zero)
      · obtain ⟨digit, digits, written, notZero⟩ :=
          inductionHypothesis (number / 10) (by omega) (by omega)
        refine ⟨digit, digits ++ [(number % 10).digitChar], ?_, notZero⟩
        rw [Nat.toDigits_of_base_le (by decide) atLeast, written]
        rfl

/-- A number is read back from its digits, and what is behind them is left. -/
theorem ofDigitChars_takeWhile
    (number : Nat)
    {rest : List Char}
    (without : Without Char.isDigit rest) :
    Nat.ofDigitChars 10
        ((Nat.toDigits 10 number ++ rest).takeWhile Char.isDigit) 0 = number ∧
      (Nat.toDigits 10 number ++ rest).dropWhile Char.isDigit = rest := by
  have areDigits : ∀ character ∈ Nat.toDigits 10 number,
      character.isDigit = true :=
    fun _ => isDigit_of_mem_toDigits
  obtain ⟨digits, behind⟩ := takeWhile_append_eq areDigits without
  rw [digits]
  exact ⟨Nat.ofDigitChars_ten_toDigits, behind⟩

end Text
end CalculatorTrials
