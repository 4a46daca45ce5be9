import CalculatorTrials.Proofs.Text.Lines
import CalculatorTrials.Text.Quoted
import Mathlib.Tactic.SplitIfs

/-!
# Quoted texts on a line

A quoted text shows line feeds and carriage returns as escapes, so it can be part
of a line whatever text it shows. So can the digits of a number.
-/

namespace CalculatorTrials
namespace Text

/-! ## Digits -/

/-- The digits of a number are those of numbers below the base. -/
theorem exists_of_mem_toDigits
    {base : Nat}
    (two_le : 2 ≤ base)
    {number : Nat}
    {character : Char}
    (member : character ∈ Nat.toDigits base number) :
    ∃ digit < base, character = digit.digitChar := by
  induction number using Nat.strongRecOn with
  | ind number inductionHypothesis =>
      rcases Nat.lt_or_ge number base with below | atLeast
      · rw [Nat.toDigits_of_lt_base below, List.mem_singleton] at member
        exact ⟨number, below, member⟩
      · rw [Nat.toDigits_of_base_le two_le atLeast, List.mem_append,
          List.mem_singleton] at member
        rcases member with among | last
        · have smaller : number / base < number :=
            Nat.div_lt_self (by omega) two_le
          exact inductionHypothesis (number / base) smaller among
        · exact ⟨number % base, Nat.mod_lt number (by omega), last⟩

/-- A number in a base of at most sixteen has no terminators in it. -/
theorem ne_terminator_of_mem_toDigits
    {base : Nat}
    (two_le : 2 ≤ base)
    (le_sixteen : base ≤ 16)
    {number : Nat}
    {character : Char}
    (member : character ∈ Nat.toDigits base number) :
    character ≠ '\n' ∧ character ≠ '\r' := by
  obtain ⟨digit, below, rfl⟩ := exists_of_mem_toDigits two_le member
  have free : ∀ digit < 16,
      digit.digitChar ≠ '\n' ∧ digit.digitChar ≠ '\r' := by
    decide
  exact free digit (Nat.lt_of_lt_of_le below le_sixteen)

/-- A number can be a line. -/
theorem isLine_toString (number : Nat) : IsLine (toString number).toList := by
  rw [Nat.toString_eq_repr, Nat.toList_repr]
  exact isLine_of_forall_ne fun _ member =>
    ne_terminator_of_mem_toDigits (by decide) (by decide) member

/-! ## Quoted texts -/

/-- No character is shown with terminators. -/
theorem ne_terminator_of_mem_quotedCharacter
    {shown character : Char}
    (member : character ∈ quotedCharacter shown) :
    character ≠ '\n' ∧ character ≠ '\r' := by
  have escape
      {letter : Char}
      (free : letter ≠ '\n' ∧ letter ≠ '\r')
      (among : character ∈ ['\\', letter]) :
      character ≠ '\n' ∧ character ≠ '\r' := by
    rcases List.mem_cons.mp among with rfl | last
    · decide
    · exact List.mem_singleton.mp last ▸ free
  rw [quotedCharacter] at member
  split_ifs at member with mark tab carriageReturn lineFeed nul visible hidden
  · refine escape ?_ member
    rcases mark with rfl | rfl <;> decide
  · exact escape (by decide) member
  · exact escape (by decide) member
  · exact escape (by decide) member
  · exact escape (by decide) member
  · obtain rfl := List.mem_singleton.mp member
    exact ⟨lineFeed, carriageReturn⟩
  · rw [codeEscape, List.mem_append, List.mem_append] at member
    rcases member with (opening | digit) | closing
    · have free : ∀ letter ∈ ['\\', 'u', '\x7b'],
          letter ≠ '\n' ∧ letter ≠ '\r' := by
        simp
      exact free character opening
    · exact ne_terminator_of_mem_toDigits (by decide) (by decide) digit
    · obtain rfl := List.mem_singleton.mp closing
      decide
  · obtain rfl := List.mem_singleton.mp member
    exact ⟨lineFeed, carriageReturn⟩

/-- Every text can be quoted on a line. -/
theorem isLine_quoted (text : String) : IsLine (quoted text).toList := by
  apply isLine_of_forall_ne
  intro character member
  rw [quoted, String.toList_ofList, List.mem_append, List.mem_cons,
    List.mem_flatMap] at member
  rcases member with (rfl | ⟨shown, _, among⟩) | closing
  · decide
  · exact ne_terminator_of_mem_quotedCharacter among
  · obtain rfl := List.mem_singleton.mp closing
    decide

end Text
end CalculatorTrials
