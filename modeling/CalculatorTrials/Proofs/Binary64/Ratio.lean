import CalculatorTrials.Proofs.Binary64.Bits

/-!
# Ratios of numbers

When a ratio is a number, and what it means that a number is not above another
one. Two numbers have no ratio if both are infinite or both are zero; rounding
and putting a number together make no number of what is none, and the other way
round.
-/

namespace CalculatorTrials
namespace Binary64

open Float.Model (Format UnpackedFloat)
open Float.Model.UnpackedFloat (packComponents)

/-- A number taken apart. -/
def unpacked (number : Float) : UnpackedFloat :=
  numberOf (bits number)

/-! ## What is no number -/

/-- An exponent that has a bit of zero is that of a number. -/
theorem numberOf_packComponents_ne
    {sign : UnpackedFloat.Sign}
    {exponent : BitVec 11}
    {mantissa : BitVec 52}
    (isNumber : exponent ≠ -1#11) :
    numberOf (packComponents Format.binary64 sign exponent mantissa) ≠
      .notANumber := by
  simp only [numberOf, UnpackedFloat.unpack,
    UnpackedFloat.unpackMantissa_packComponents,
    UnpackedFloat.unpackExponent_packComponents,
    UnpackedFloat.unpackSign_packComponents]
  rw [if_neg isNumber]
  split
  · split <;> simp
  · simp

/-- The word of a number stands for a number, and that of no number for none. -/
theorem numberOf_wordOf_eq_iff (number : UnpackedFloat) :
    numberOf (wordOf number) = .notANumber ↔ number = .notANumber := by
  cases number with
  | notANumber => exact iff_of_true rfl rfl
  | infinity sign =>
      refine iff_of_false ?_ nofun
      cases sign <;> nofun
  | zero sign =>
      refine iff_of_false ?_ nofun
      cases sign <;> nofun
  | finite sign mantissa exponent positive =>
      refine iff_of_false ?_ nofun
      rw [wordOf, UnpackedFloat.pack]
      dsimp only
      split
      · cases sign <;> nofun
      · split
        · apply numberOf_packComponents_ne
          intro allOnes
          have exponentEq : _ % 2 ^ 11 = 2047 :=
            congrArg BitVec.toNat allOnes
          rw [Nat.mod_eq_of_lt (by omega)] at exponentEq
          omega
        · exact numberOf_packComponents_ne (by decide)

/-- Rounding gives a number. -/
theorem roundWithAccuracy_ne
    (sign : UnpackedFloat.Sign)
    (mantissa : Nat)
    (exponent : Int)
    (accuracy : UnpackedFloat.Accuracy) :
    UnpackedFloat.roundWithAccuracy Format.binary64 sign mantissa exponent
      accuracy ≠ .notANumber := by
  rw [UnpackedFloat.roundWithAccuracy]
  dsimp only
  split <;> nofun

/-- A difference of finite numbers is a number. -/
theorem normalize_ne
    (mantissa exponent : Int)
    (sign : UnpackedFloat.Sign) :
    UnpackedFloat.normalize Format.binary64 mantissa exponent sign ≠
      .notANumber := by
  have rounds (sign : UnpackedFloat.Sign) (mantissa : Nat) :
      UnpackedFloat.round Format.binary64 sign mantissa exponent ≠
        .notANumber :=
    roundWithAccuracy_ne _ _ _ _
  rw [UnpackedFloat.normalize]
  split
  · exact rounds _ _
  · nofun
  · exact rounds _ _

/-! ## Ratios -/

/-- Two numbers have a ratio unless one of them is none, both are infinite, or
both are zero. -/
theorem div_eq_notANumber_iff (first second : UnpackedFloat) :
    UnpackedFloat.div Format.binary64 first second = .notANumber ↔
      first = .notANumber ∨ second = .notANumber ∨
        ((∃ sign, first = .infinity sign) ∧ ∃ sign, second = .infinity sign) ∨
        (∃ sign, first = .zero sign) ∧ ∃ sign, second = .zero sign := by
  cases first <;> cases second <;>
    simp [UnpackedFloat.div, roundWithAccuracy_ne]

/-- The components of one. -/
theorem exists_unpacked_one :
    ∃ sign mantissa exponent positive,
      unpacked 1 = .finite sign mantissa exponent positive :=
  ⟨_, _, _, _, rfl⟩

/-- A number and one have a difference. -/
theorem sub_one_eq_notANumber_iff (number : UnpackedFloat) :
    UnpackedFloat.sub Format.binary64 number (unpacked 1) = .notANumber ↔
      number = .notANumber := by
  obtain ⟨_, _, _, _, one⟩ := exists_unpacked_one
  rw [one]
  cases number <;> simp [UnpackedFloat.sub, normalize_ne]

/-! ## Order -/

/-- Numbers are compared the same way from both sides. -/
theorem compare_swap (first second : UnpackedFloat) :
    second.compare first = (first.compare second).map Ordering.swap := by
  have signs (sign other : UnpackedFloat.Sign) :
      compare other sign = (compare sign other).swap := by
    cases sign <;> cases other <;> rfl
  have sizes (exponent otherExponent : Int) (mantissa otherMantissa : Nat) :
      (compare otherExponent exponent).then (compare otherMantissa mantissa) =
        ((compare exponent otherExponent).then
          (compare mantissa otherMantissa)).swap := by
    rw [Ordering.swap_then, ← Std.OrientedOrd.eq_swap,
      ← Std.OrientedOrd.eq_swap]
  cases first with
  | notANumber => cases second <;> rfl
  | infinity sign =>
      cases second with
      | infinity other => exact congrArg some (signs sign other)
      | notANumber => rfl
      | zero other => cases sign <;> rfl
      | finite other => cases sign <;> cases other <;> rfl
  | zero sign =>
      cases second with
      | infinity other | finite other => cases other <;> rfl
      | notANumber | zero => rfl
  | finite sign mantissa exponent =>
      cases second with
      | notANumber => cases sign <;> rfl
      | zero other => cases sign <;> rfl
      | infinity other => cases sign <;> cases other <;> rfl
      | finite other otherMantissa otherExponent =>
          have same := sizes exponent otherExponent mantissa otherMantissa
          cases sign <;> cases other
          · exact congrArg (some ·.swap) same
          · rfl
          · rfl
          · exact congrArg some same

/-- Numbers can be compared unless one of them is none. -/
theorem compare_eq_none_iff (first second : UnpackedFloat) :
    first.compare second = none ↔
      first = .notANumber ∨ second = .notANumber := by
  rcases first with (_ | _) | _ | _ | ⟨_ | _, _, _, _⟩ <;>
    rcases second with (_ | _) | _ | _ | ⟨_ | _, _, _, _⟩ <;>
    simp [UnpackedFloat.compare]

/-- A number that is not below another one is at least as great, or one of them
is none. -/
theorem lt_eq_false_iff (first second : UnpackedFloat) :
    first.lt second = false ↔
      second.le first = true ∨ first = .notANumber ∨ second = .notANumber := by
  rw [UnpackedFloat.lt, UnpackedFloat.le, compare_swap first second,
    ← compare_eq_none_iff]
  cases first.compare second with
  | none => simp
  | some order => cases order <;> simp

/-! ## Numbers in words -/

theorem isNaN_iff (number : Float) :
    number.isNaN = true ↔ unpacked number = .notANumber :=
  UnpackedFloat.isNaN_iff

theorem isInf_iff (number : Float) :
    number.isInf = true ↔ ∃ sign, unpacked number = .infinity sign := by
  change (unpacked number).isInf = true ↔ _
  cases unpacked number <;> simp [UnpackedFloat.isInf]

theorem lt_iff (first second : Float) :
    first < second ↔ (unpacked first).lt (unpacked second) = true := by
  change first.lt second = true ↔ _
  rw [Float.lt, decide_eq_true_iff]
  exact Iff.rfl

theorem le_iff (first second : Float) :
    first ≤ second ↔ (unpacked first).le (unpacked second) = true := by
  change first.le second = true ↔ _
  rw [Float.le, decide_eq_true_iff]
  exact Iff.rfl

/-- A bound from above is a number. -/
theorem not_isNaN_of_le
    {first second : Float}
    (le : first ≤ second) :
    ¬second.isNaN = true := by
  rw [isNaN_iff]
  intro isNone
  rw [le_iff, UnpackedFloat.le,
    (compare_eq_none_iff _ _).mpr (.inr isNone)] at le
  cases le

/-- A number that is not below another one is at least as great, or one of them
is none. -/
theorem not_lt_iff (first second : Float) :
    ¬first < second ↔
      second ≤ first ∨ first.isNaN = true ∨ second.isNaN = true := by
  rw [lt_iff, le_iff, isNaN_iff, isNaN_iff, Bool.not_eq_true, lt_eq_false_iff]

/-- Zeros are equal, whatever their signs. -/
theorem beq_of_zero
    {first second : Float}
    (isZero : ∃ sign, unpacked first = .zero sign)
    (otherIsZero : ∃ sign, unpacked second = .zero sign) :
    (first == second) = true := by
  obtain ⟨_, zero⟩ := isZero
  obtain ⟨_, otherZero⟩ := otherIsZero
  change ((unpacked first).compare (unpacked second) == some .eq) = true
  rw [zero, otherZero]
  rfl

/-- The distance of a ratio from one is a number unless one of the two numbers is
none, both are infinite, or both are zero. -/
theorem isNaN_ratio_iff (first second : Float) :
    (first / second - 1).abs.isNaN = true ↔
      first.isNaN = true ∨ second.isNaN = true ∨
        (first.isInf = true ∧ second.isInf = true) ∨
        (∃ sign, unpacked first = .zero sign) ∧
          ∃ sign, unpacked second = .zero sign := by
  have absolute (number : Float) :
      unpacked number.abs = .notANumber ↔ unpacked number = .notANumber := by
    refine (numberOf_wordOf_eq_iff _).trans ?_
    change (unpacked number).abs = _ ↔ _
    cases unpacked number <;> simp [UnpackedFloat.abs]
  have difference (number : Float) :
      unpacked (number - 1) = .notANumber ↔ unpacked number = .notANumber :=
    (numberOf_wordOf_eq_iff _).trans (sub_one_eq_notANumber_iff _)
  simp only [isNaN_iff, isInf_iff, ← div_eq_notANumber_iff]
  exact (absolute _).trans ((difference _).trans (numberOf_wordOf_eq_iff _))

end Binary64
end CalculatorTrials
