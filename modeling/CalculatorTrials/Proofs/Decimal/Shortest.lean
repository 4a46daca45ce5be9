import CalculatorTrials.Decimal.Shortest
import CalculatorTrials.Proofs.Binary64.Rounding

/-!
# Shortest decimals round back

The shortest decimal of a magnitude is a point of its cell, and every decimal of
the cell rounds to the magnitude. The cases in which a decimal is not rounded but
known to be out of range lie outside all cells.
-/

namespace CalculatorTrials
namespace Decimal

open Binary64

/-! ## Rounding of decimals -/

/-- The numerator of a decimal number, counted in units. -/
def numerator (number : Decimal) : Nat :=
  number.digits * 10 ^ number.exponent.toNat * unitsInOne

/-- The denominator of a decimal number. -/
def denominator (number : Decimal) : Nat :=
  10 ^ (-number.exponent).toNat

/-- The decimal number rounds to the magnitude. -/
def RoundsTo (number : Decimal) (size : Nat) : Prop :=
  InCell size number.numerator number.denominator

theorem denominator_pos (number : Decimal) : 0 < number.denominator :=
  Nat.pow_pos (Nat.zero_lt_succ 9)

/-- A number that rounds to a positive magnitude has digits. -/
theorem RoundsTo.digits_ne_zero
    {number : Decimal}
    {size : Nat}
    (rounds : number.RoundsTo size)
    (nonzero : 0 < size) :
    number.digits ≠ 0 := by
  intro isZero
  have lower := rounds.lower
  rw [numerator, isZero, Nat.zero_mul, Nat.zero_mul] at lower
  have unitsPositive : 0 < units (size - 1) + units size := by
    have grows := units_pred_lt nonzero
    omega
  have product := Nat.mul_pos unitsPositive number.denominator_pos
  omega

/-- Values do not decrease with their magnitudes. -/
theorem units_le_of_le
    {first second : Nat}
    (le : first ≤ second) :
    units first ≤ units second := by
  induction le with
  | refl => exact Nat.le_refl _
  | step _ inductionHypothesis =>
      exact Nat.le_trans inductionHypothesis
        (Nat.le_of_lt (units_lt_succ _))

/-- Infinity stands for `2 ^ 1024`. -/
theorem units_infinity : units infinity = 2 ^ 1024 * unitsInOne := by
  decide +kernel

theorem unitsInOne_pos : 0 < unitsInOne := by
  decide +kernel

/-- A unit is half of `2 ^ (-1073)`. -/
theorem two_mul_unitsInOne : 2 * unitsInOne = 2 ^ 1075 := by
  decide +kernel

/-- Powers of ten from the 309th on are out of range. -/
theorem two_pow_1024_lt : 2 ^ 1024 < 10 ^ 309 := by
  decide +kernel

@[simp] theorem numerator_ofNat (digits exponent : Nat) :
    numerator ⟨digits, .ofNat exponent⟩ = digits * 10 ^ exponent * unitsInOne :=
  rfl

@[simp] theorem denominator_ofNat (digits exponent : Nat) :
    denominator ⟨digits, .ofNat exponent⟩ = 1 := by
  simp [denominator]

@[simp] theorem numerator_negSucc (digits exponent : Nat) :
    numerator ⟨digits, .negSucc exponent⟩ = digits * unitsInOne := by
  simp [numerator]

@[simp] theorem denominator_negSucc (digits exponent : Nat) :
    denominator ⟨digits, .negSucc exponent⟩ = 10 ^ (exponent + 1) :=
  rfl

/-- A number of at least `10 ^ 309` rounds to no finite magnitude. -/
theorem RoundsTo.exponent_lt
    {digits exponent size : Nat}
    (rounds : RoundsTo ⟨digits, .ofNat exponent⟩ size)
    (nonzero : 0 < size)
    (finite : size < infinity) :
    exponent < 309 := by
  apply Nat.lt_of_not_le
  intro large
  have digitsPositive : 0 < digits :=
    Nat.pos_of_ne_zero (rounds.digits_ne_zero nonzero)
  have power : 2 ^ 1024 < digits * 10 ^ exponent := by
    have grows : 10 ^ 309 ≤ 10 ^ exponent :=
      @Nat.pow_le_pow_right 10 (by decide) 309 exponent large
    have scaled : 10 ^ exponent ≤ digits * 10 ^ exponent :=
      Nat.le_mul_of_pos_left _ digitsPositive
    exact Nat.lt_of_lt_of_le two_pow_1024_lt (Nat.le_trans grows scaled)
  have next : units (size + 1) < digits * 10 ^ exponent * unitsInOne := by
    have inRange : units (size + 1) ≤ units infinity := units_le_of_le finite
    have above := Nat.mul_lt_mul_of_pos_right power unitsInOne_pos
    rw [← units_infinity] at above
    exact Nat.lt_of_le_of_lt inRange above
  clear power
  have upper := rounds.upper
  rw [numerator_ofNat, denominator_ofNat, Nat.mul_one] at upper
  have itself : units size < units (size + 1) := units_lt_succ size
  omega

/-- A number below `2 ^ (-1075)` rounds to no positive magnitude. -/
theorem RoundsTo.lt_log2
    {digits exponent size : Nat}
    (rounds : RoundsTo ⟨digits, .negSucc exponent⟩ size)
    (nonzero : 0 < size) :
    3 * (exponent + 1) < digits.log2 + 1076 := by
  apply Nat.lt_of_not_le
  intro small
  have digitsLt : digits < 2 ^ (digits.log2 + 1) := Nat.lt_log2_self
  have lower := rounds.lower
  rw [numerator_negSucc, denominator_negSucc] at lower
  have grows := units_pred_lt nonzero
  have unitPositive : 1 ≤ units (size - 1) + units size := by
    omega
  have power : 10 ^ (exponent + 1) ≤ 2 * (digits * unitsInOne) :=
    Nat.le_trans (Nat.le_mul_of_pos_left _ unitPositive) lower
  have below : 2 * (digits * unitsInOne) < 10 ^ (exponent + 1) := by
    calc
      2 * (digits * unitsInOne) = digits * (2 * unitsInOne) := by
        rw [Nat.mul_left_comm]
      _ < 2 ^ (digits.log2 + 1) * (2 * unitsInOne) :=
        Nat.mul_lt_mul_of_pos_right digitsLt (by decide +kernel)
      _ = 2 ^ (digits.log2 + 1076) := by
        rw [two_mul_unitsInOne, ← Nat.pow_add 2 (digits.log2 + 1) 1075]
      _ ≤ 2 ^ (3 * (exponent + 1)) :=
        Nat.pow_le_pow_right (by decide) small
      _ = 8 ^ (exponent + 1) := Nat.pow_mul ..
      _ ≤ 10 ^ (exponent + 1) := Nat.pow_le_pow_left (by decide) _
  omega

/-- A decimal number has the magnitude that it rounds to. -/
theorem RoundsTo.magnitude_eq
    {number : Decimal}
    {size : Nat}
    (rounds : number.RoundsTo size)
    (nonzero : 0 < size)
    (finite : size < infinity) :
    number.magnitude = size := by
  have isNearest := InCell.nearest_eq rounds number.denominator_pos nonzero
    (Nat.le_of_lt finite)
  have hasDigits := rounds.digits_ne_zero nonzero
  obtain ⟨digits, exponent⟩ := number
  cases exponent with
  | ofNat exponent =>
      have inRange : ¬309 ≤ exponent :=
        Nat.not_le_of_lt (rounds.exponent_lt nonzero finite)
      rw [numerator_ofNat, denominator_ofNat] at isNearest
      rw [magnitude, if_neg hasDigits]
      exact (if_neg inRange).trans isNearest
  | negSucc exponent =>
      have inRange : ¬digits.log2 + 1076 ≤ 3 * (exponent + 1) :=
        Nat.not_le_of_lt (rounds.lt_log2 nonzero)
      rw [numerator_negSucc, denominator_negSucc] at isNearest
      rw [magnitude, if_neg hasDigits]
      exact (if_neg inRange).trans isNearest

/-- A decimal number rounds to a magnitude that stands for the same value. -/
theorem roundsTo_of_eq_units
    {number : Decimal}
    {size : Nat}
    (same : number.numerator = units size * number.denominator)
    (nonzero : 0 < size) :
    number.RoundsTo size := by
  have positive := number.denominator_pos
  have lower := Nat.mul_lt_mul_of_pos_right (units_pred_lt nonzero) positive
  have upper := Nat.mul_lt_mul_of_pos_right (units_lt_succ size) positive
  have strict :
      (units (size - 1) + units size) * number.denominator <
          2 * number.numerator ∧
        2 * number.numerator <
          (units size + units (size + 1)) * number.denominator := by
    rw [Nat.add_mul, Nat.add_mul, same]
    omega
  exact ⟨Nat.le_of_lt strict.1, Nat.le_of_lt strict.2, fun _ => strict⟩

/-! ## Cells of lengths -/

namespace Cell

theorem lengthsInUnit_eq : lengthsInUnit = 10 ^ 324 := by
  decide +kernel

theorem lengthsInUnit_pos : 0 < lengthsInUnit := by
  decide +kernel

/-- The finest grid is finer than half of any cell. -/
theorem unitsInOne_lt_lengthsInUnit : unitsInOne < lengthsInUnit := by
  decide +kernel

/-- The place of a grid tells the power of ten on one side of the fraction. -/
theorem pow_mul_lengthsInUnit (place : Nat) :
    10 ^ (place - 324) * lengthsInUnit = 10 ^ place * 10 ^ (324 - place) := by
  have sameExponent : place + (324 - place) = (place - 324) + 324 := by
    omega
  rw [lengthsInUnit_eq, ← Nat.pow_add 10 (place - 324) 324, ← sameExponent,
    Nat.pow_add 10 place]

/-- The point of a grid is its decimal number, counted in lengths. -/
theorem numerator_mul_lengthsInUnit (digits place : Nat) :
    numerator ⟨digits, (place : Int) - 324⟩ * lengthsInUnit =
      digits * (10 ^ place * unitsInOne) *
        denominator ⟨digits, (place : Int) - 324⟩ := by
  have above : ((place : Int) - 324).toNat = place - 324 := by
    omega
  have below : (-((place : Int) - 324)).toNat = 324 - place := by
    omega
  have powers := pow_mul_lengthsInUnit place
  simp only [numerator, denominator, above, below]
  generalize lengthsInUnit = lengths at *
  generalize 10 ^ (place - 324) = coarse at *
  generalize 10 ^ (324 - place) = fine at *
  calc
    digits * coarse * unitsInOne * lengths =
        digits * unitsInOne * (coarse * lengths) := by
      ac_rfl
    _ = digits * unitsInOne * (10 ^ place * fine) := by
      rw [powers]
    _ = digits * (10 ^ place * unitsInOne) * fine := by
      ac_rfl

/-- Numbers compare as those that they scale to. -/
theorem le_iff_of_scaled
    {first second firstScaled secondScaled scale factor : Nat}
    (sameFirst : first * scale = firstScaled * factor)
    (sameSecond : second * scale = secondScaled * factor)
    (scalePositive : 0 < scale)
    (factorPositive : 0 < factor) :
    first ≤ second ↔ firstScaled ≤ secondScaled := by
  rw [← Nat.mul_le_mul_right_iff scalePositive, sameFirst, sameSecond,
    Nat.mul_le_mul_right_iff factorPositive]

/-- A point of a grid in the cell of a magnitude is a decimal that rounds to the
magnitude. -/
theorem roundsTo_of_contains
    {size digits place : Nat}
    (contained : (ofMagnitude size).contains
      (digits * (10 ^ place * unitsInOne)) = true) :
    RoundsTo ⟨digits, (place : Int) - 324⟩ size := by
  have twicePoint :
      2 * numerator ⟨digits, (place : Int) - 324⟩ * lengthsInUnit =
        2 * (digits * (10 ^ place * unitsInOne)) *
          denominator ⟨digits, (place : Int) - 324⟩ := by
    rw [Nat.mul_assoc 2, numerator_mul_lengthsInUnit, ← Nat.mul_assoc 2]
  have lowerIff (bound : Nat) :=
    le_iff_of_scaled (Nat.mul_right_comm bound _ _) twicePoint
      lengthsInUnit_pos (denominator_pos _)
  have upperIff (bound : Nat) :=
    le_iff_of_scaled twicePoint (Nat.mul_right_comm bound _ _)
      lengthsInUnit_pos (denominator_pos _)
  have lowerEq : (ofMagnitude size).twiceLower =
      (units (size - 1) + units size) * lengthsInUnit :=
    (Nat.add_mul ..).symm
  have upperEq : (ofMagnitude size).twiceUpper =
      (units size + units (size + 1)) * lengthsInUnit :=
    (Nat.add_mul ..).symm
  have closedEq : (ofMagnitude size).closed = (size % 2 == 0) := rfl
  rw [contains, lowerEq, upperEq, closedEq] at contained
  split at contained
  · next even =>
      simp only [Bool.and_eq_true, decide_eq_true_eq] at contained
      refine ⟨(lowerIff _).mpr contained.1, (upperIff _).mpr contained.2, ?_⟩
      intro odd
      rw [odd] at even
      cases even
  · simp only [Bool.and_eq_true, decide_eq_true_eq] at contained
    have strictLower := Nat.not_le_of_lt contained.1
    have strictUpper := Nat.not_le_of_lt contained.2
    rw [← upperIff] at strictLower
    rw [← lowerIff] at strictUpper
    have strict := And.intro (Nat.lt_of_not_le strictLower)
      (Nat.lt_of_not_le strictUpper)
    exact ⟨Nat.le_of_lt strict.1, Nat.le_of_lt strict.2, fun _ => strict⟩

/-- The number of a grid point in the cell is that of a point in the cell. -/
theorem contains_of_gridPoint?
    {cell : Cell}
    {spacing digits : Nat}
    (found : cell.gridPoint? spacing = some digits) :
    cell.contains (digits * spacing) = true := by
  simp only [gridPoint?] at found
  split at found
  · next belowContained aboveContained =>
      obtain rfl := Option.some.inj found
      have neighbour :
          divideToEven cell.centre spacing = cell.centre / spacing ∨
            divideToEven cell.centre spacing = cell.centre / spacing + 1 := by
        simp only [divideToEven]
        split
        · exact .inl rfl
        · omega
        · exact .inr rfl
      rcases neighbour with isBelow | isAbove
      · rw [isBelow]
        exact belowContained
      · rw [isAbove]
        exact aboveContained
  · next belowContained _ =>
      obtain rfl := Option.some.inj found
      exact belowContained
  · next _ aboveContained =>
      obtain rfl := Option.some.inj found
      exact aboveContained
  · cases found

/-- Every cell has a point of the finest grid. -/
theorem contains_finest
    {size : Nat}
    (nonzero : 0 < size) :
    (ofMagnitude size).contains
      (divideToEven (ofMagnitude size).centre unitsInOne *
        (10 ^ 0 * unitsInOne)) = true := by
  have near := isNearest_divideToEven (ofMagnitude size).centre unitsInOne_pos
  have nearLower := near.lower
  have nearUpper := near.upper
  have fine := unitsInOne_lt_lengthsInUnit
  have lower : (ofMagnitude size).twiceLower + lengthsInUnit ≤
      2 * (ofMagnitude size).centre := by
    have scaled := Nat.mul_le_mul_right lengthsInUnit (units_pred_lt nonzero)
    rw [Nat.succ_mul] at scaled
    simp only [ofMagnitude]
    omega
  have upper : 2 * (ofMagnitude size).centre + lengthsInUnit ≤
      (ofMagnitude size).twiceUpper := by
    have scaled := Nat.mul_le_mul_right lengthsInUnit (units_lt_succ size)
    rw [Nat.succ_mul] at scaled
    simp only [ofMagnitude]
    omega
  rw [Nat.pow_zero, Nat.one_mul, contains]
  generalize (ofMagnitude size).centre = centre at *
  generalize divideToEven centre unitsInOne * unitsInOne = point at *
  split
  · simp only [Bool.and_eq_true, decide_eq_true_eq]
    omega
  · simp only [Bool.and_eq_true, decide_eq_true_eq]
    omega

/-- The search ends with a decimal that rounds to the magnitude. -/
theorem roundsTo_shortestFrom
    {size : Nat}
    (nonzero : 0 < size)
    (place : Nat) :
    ((ofMagnitude size).shortestFrom place).RoundsTo size := by
  induction place with
  | zero =>
      have finest := roundsTo_of_contains (contains_finest nonzero)
      rw [shortestFrom]
      exact finest
  | succ place inductionHypothesis =>
      rw [shortestFrom]
      split
      · next digits found =>
          exact roundsTo_of_contains (contains_of_gridPoint? found)
      · exact inductionHypothesis

end Cell

/-- The shortest decimal of a finite magnitude has that magnitude. -/
theorem magnitude_shortest
    {size : Nat}
    (nonzero : 0 < size)
    (finite : size < infinity) :
    (shortest size).magnitude = size :=
  RoundsTo.magnitude_eq (Cell.roundsTo_shortestFrom nonzero _) nonzero finite

end Decimal
end CalculatorTrials
