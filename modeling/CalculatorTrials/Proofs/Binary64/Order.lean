import CalculatorTrials.Proofs.Binary64.Ratio
import Mathlib.Data.Prod.Lex

/-!
# The order of numbers

Numbers stand in a line from one infinity to the other, and what is no number has
no place in it. So a number that is at most another one is below all that the
other one is below.
-/

namespace CalculatorTrials
namespace Binary64

open Float.Model (UnpackedFloat)

/-- Where a number stands among all numbers, if it is one. What comes first is
which end it is on, then its exponent, and its mantissa last. -/
def place? : UnpackedFloat → Option (Int ×ₗ Int ×ₗ Int)
  | .infinity .negative => some (toLex (-2, toLex (0, 0)))
  | .finite .negative mantissa exponent _ =>
      some (toLex (-1, toLex (-exponent, -(mantissa : Int))))
  | .zero _ => some (toLex (0, toLex (0, 0)))
  | .finite .positive mantissa exponent _ =>
      some (toLex (1, toLex (exponent, (mantissa : Int))))
  | .infinity .positive => some (toLex (2, toLex (0, 0)))
  | .notANumber => none

theorem place?_eq_none_iff (number : UnpackedFloat) :
    place? number = none ↔ number = .notANumber := by
  rcases number with (_ | _) | _ | _ | ⟨_ | _, _, _, _⟩ <;> simp [place?]

/-- A number is below another one if it stands in front of it. -/
theorem lt_iff_place? (first second : UnpackedFloat) :
    first.lt second = true ↔
      ∃ place other, place? first = some place ∧
        place? second = some other ∧ place < other := by
  have signs : compare UnpackedFloat.Sign.negative .positive = .lt := rfl
  -- Two finite numbers of one sign are told apart by their sizes.
  have smaller (exponent other : Int) (mantissa otherMantissa : Nat) :
      (compare exponent other).then (compare mantissa otherMantissa) = .lt ↔
        exponent < other ∨ exponent = other ∧ mantissa < otherMantissa := by
    rw [Ordering.then_eq_lt, Int.compare_eq_lt, Int.compare_eq_eq,
      Nat.compare_eq_lt]
  have greater (exponent other : Int) (mantissa otherMantissa : Nat) :
      (compare exponent other).then (compare mantissa otherMantissa) = .gt ↔
        other < exponent ∨ exponent = other ∧ otherMantissa < mantissa := by
    rw [Ordering.then_eq_gt, Int.compare_eq_gt, Int.compare_eq_eq,
      Nat.compare_eq_gt]
  rcases first with (_ | _) | _ | _ | ⟨_ | _, _, _, _⟩ <;>
    rcases second with (_ | _) | _ | _ | ⟨_ | _, _, _, _⟩ <;>
    simp [UnpackedFloat.lt, UnpackedFloat.compare, place?,
      Prod.Lex.toLex_lt_toLex, signs, smaller, greater]

/-- What is at most a number is a number too, and does not stand behind it. -/
theorem exists_place?_of_le
    {first second : UnpackedFloat}
    (le : first.le second = true)
    {other : Int ×ₗ Int ×ₗ Int}
    (stands : place? second = some other) :
    ∃ place, place? first = some place ∧ place ≤ other := by
  cases found : place? first with
  | none =>
      rw [place?_eq_none_iff] at found
      rw [UnpackedFloat.le, (compare_eq_none_iff _ _).mpr (.inl found)] at le
      cases le
  | some place =>
      refine ⟨place, rfl, not_lt.mp fun before => ?_⟩
      have below : second.lt first = true :=
        (lt_iff_place? second first).mpr ⟨other, place, stands, found, before⟩
      rw [(lt_eq_false_iff second first).mpr (.inl le)] at below
      cases below

/-- A number that is at most another one is below all that the other one is
below. -/
protected theorem lt_of_le_of_lt
    {first second third : Float}
    (le : first ≤ second)
    (lt : second < third) :
    first < third := by
  rw [le_iff] at le
  rw [lt_iff, lt_iff_place?] at lt ⊢
  obtain ⟨middle, last, isMiddle, isLast, before⟩ := lt
  obtain ⟨place, isPlace, notBehind⟩ := exists_place?_of_le le isMiddle
  exact ⟨place, last, isPlace, isLast, lt_of_le_of_lt notBehind before⟩

end Binary64
end CalculatorTrials
