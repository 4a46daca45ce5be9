import CalculatorTrials.Binary64.Magnitude
import Mathlib.Algebra.Group.Nat.Defs

/-!
# Rounding to magnitudes

The reals that are nearer to one magnitude than to its neighbours round to it,
and so do the ones halfway if the magnitude is even. Magnitudes are spaced evenly
from one power of two to the next, so a magnitude is a number of steps of its
scale, and only below a power of two the step is half as long.
-/

namespace CalculatorTrials
namespace Binary64

/-! ## Whole numbers -/

/-- The whole number is nearest to a quotient: it is no further than one half
away, and not as far as that if it is odd. -/
structure IsNearest (numerator denominator whole : Nat) : Prop where
  lower : 2 * (whole * denominator) ≤ 2 * numerator + denominator
  upper : 2 * numerator ≤ 2 * (whole * denominator) + denominator
  strict : whole % 2 = 1 →
    2 * (whole * denominator) < 2 * numerator + denominator ∧
      2 * numerator < 2 * (whole * denominator) + denominator

/-- Rounding finds a nearest whole number. -/
theorem isNearest_divideToEven
    (numerator : Nat)
    {denominator : Nat}
    (positive : 0 < denominator) :
    IsNearest numerator denominator (divideToEven numerator denominator) := by
  have division := Nat.div_add_mod' numerator denominator
  have remainderLt := Nat.mod_lt numerator positive
  rw [divideToEven]
  generalize numerator / denominator = quotient at division ⊢
  generalize numerator % denominator = remainder at division remainderLt ⊢
  subst division
  have next : (quotient + 1) * denominator =
      quotient * denominator + denominator :=
    Nat.succ_mul ..
  cases order : compare (2 * remainder) denominator with
  | lt =>
      rw [Nat.compare_eq_lt] at order
      constructor <;> dsimp only <;> omega
  | eq =>
      rw [Nat.compare_eq_eq] at order
      rcases Nat.mod_two_eq_zero_or_one quotient with even | odd
      · simp only [even, Nat.add_zero]
        constructor <;> omega
      · simp only [odd]
        constructor <;> omega
  | gt =>
      rw [Nat.compare_eq_gt] at order
      constructor <;> dsimp only <;> omega

/-- No whole number is nearest below another one. -/
theorem IsNearest.not_lt
    {numerator denominator first second : Nat}
    (nearest : IsNearest numerator denominator first)
    (other : IsNearest numerator denominator second)
    (positive : 0 < denominator) :
    ¬first < second := by
  intro below
  have bound := Nat.mul_le_mul_right denominator (Nat.succ_le_of_lt below)
  rw [Nat.succ_mul] at bound
  have upper := nearest.upper
  have lower := other.lower
  -- Both are one half away, so they are neighbours and one of them is odd.
  have adjacent : second = first + 1 := by
    apply Nat.eq_of_mul_eq_mul_right positive
    rw [Nat.succ_mul]
    omega
  have strict := nearest.strict
  have strictOther := other.strict
  omega

/-- There is one nearest whole number, so rounding finds it. -/
theorem IsNearest.divideToEven_eq
    {numerator denominator whole : Nat}
    (nearest : IsNearest numerator denominator whole)
    (positive : 0 < denominator) :
    divideToEven numerator denominator = whole := by
  have found := isNearest_divideToEven numerator positive
  exact Nat.le_antisymm
    (Nat.le_of_not_lt (nearest.not_lt found positive))
    (Nat.le_of_not_lt (found.not_lt nearest positive))

/-! ## Steps of a scale -/

/-- A magnitude of a scale stands for a number of steps of that scale. -/
theorem units_scale
    {scale steps : Nat}
    (le : steps ≤ 2 * leadingBit)
    (normal : leadingBit ≤ steps ∨ scale = 0) :
    units (scale * leadingBit + steps) = steps * 2 ^ scale := by
  by_cases subnormal : scale * leadingBit + steps < leadingBit
  · have isZero : scale = 0 := by
      simp only [leadingBit] at subnormal normal
      omega
    rw [units, if_pos subnormal, isZero]
    simp
  · rw [units, if_neg subnormal, Nat.shiftLeft_eq]
    by_cases last : steps = 2 * leadingBit
    · have remainder : (scale * leadingBit + steps) % leadingBit = 0 := by
        simp only [last, leadingBit]
        omega
      have quotient : (scale * leadingBit + steps) / leadingBit - 1 =
          scale + 1 := by
        simp only [last, leadingBit]
        omega
      rw [remainder, quotient, last, Nat.add_zero, Nat.pow_succ,
        Nat.mul_comm (2 ^ scale), ← Nat.mul_assoc, Nat.mul_comm 2]
    · have remainder : leadingBit + (scale * leadingBit + steps) % leadingBit =
          steps := by
        simp only [leadingBit] at last le normal subnormal ⊢
        omega
      have quotient : (scale * leadingBit + steps) / leadingBit - 1 =
          scale := by
        simp only [leadingBit] at last le normal subnormal ⊢
        omega
      rw [remainder, quotient]

/-- Every magnitude is a number of steps of a scale, with the leading bit unless
the scale is the finest. -/
theorem exists_scale (size : Nat) :
    ∃ scale steps,
      size = scale * leadingBit + steps ∧ steps < 2 * leadingBit ∧
        (leadingBit ≤ steps ∨ scale = 0) := by
  by_cases subnormal : size < leadingBit
  · exact ⟨0, size, by omega, by omega, .inr rfl⟩
  · refine ⟨size / leadingBit - 1, leadingBit + size % leadingBit, ?_, ?_,
      .inl (Nat.le_add_right ..)⟩
    · simp only [leadingBit] at subnormal ⊢
      omega
    · simp only [leadingBit]
      omega

/-- The next magnitude is a step away. -/
theorem units_succ
    {scale steps : Nat}
    (lt : steps < 2 * leadingBit)
    (normal : leadingBit ≤ steps ∨ scale = 0) :
    units (scale * leadingBit + steps + 1) = (steps + 1) * 2 ^ scale := by
  rw [Nat.add_assoc]
  apply units_scale (Nat.succ_le_of_lt lt)
  omega

/-- Greater magnitudes stand for greater values. -/
theorem units_lt_succ (size : Nat) : units size < units (size + 1) := by
  obtain ⟨scale, steps, rfl, lt, normal⟩ := exists_scale size
  rw [units_succ lt normal, units_scale (Nat.le_of_lt lt) normal]
  exact Nat.mul_lt_mul_of_pos_right (Nat.lt_succ_self steps)
    (Nat.two_pow_pos scale)

/-- Smaller magnitudes stand for smaller values. -/
theorem units_pred_lt
    {size : Nat}
    (nonzero : 0 < size) :
    units (size - 1) < units size := by
  have grows := units_lt_succ (size - 1)
  rwa [Nat.sub_add_cancel nonzero] at grows

/-! ## Cells -/

/-- A quotient of units rounds to a magnitude: it is at most halfway to the
neighbours, and not halfway if the magnitude is odd. -/
structure InCell (size numerator denominator : Nat) : Prop where
  lower : (units (size - 1) + units size) * denominator ≤ 2 * numerator
  upper : 2 * numerator ≤ (units size + units (size + 1)) * denominator
  strict : size % 2 = 1 →
    (units (size - 1) + units size) * denominator < 2 * numerator ∧
      2 * numerator < (units size + units (size + 1)) * denominator

/-- The scale of a quotient that has a leading bit in it. -/
theorem log2_sub_eq_scale
    {numerator denominator scale : Nat}
    (positive : 0 < denominator)
    (least :
      leadingBit * (denominator * 2 ^ scale) ≤ numerator ∨ scale = 0)
    (below : numerator < 2 * leadingBit * (denominator * 2 ^ scale)) :
    (numerator / denominator).log2 - 52 = scale := by
  have quotientLt : numerator / denominator < 2 ^ (scale + 53) := by
    rw [Nat.div_lt_iff_lt_mul positive]
    have same : 2 ^ (scale + 53) * denominator =
        2 * leadingBit * (denominator * 2 ^ scale) := by
      rw [Nat.pow_add, Nat.mul_comm denominator, ← Nat.mul_assoc,
        Nat.mul_comm (2 ^ scale)]
      rfl
    omega
  by_cases isZero : numerator / denominator = 0
  · rw [isZero]
    have leadingZero : scale = 0 := by
      rcases least with least | isFinest
      · have quotientLe : leadingBit * 2 ^ scale ≤ numerator / denominator := by
          rw [Nat.le_div_iff_mul_le positive, Nat.mul_assoc,
            Nat.mul_comm (2 ^ scale)]
          exact least
        have leads : 0 < leadingBit * 2 ^ scale :=
          Nat.mul_pos (by decide) (Nat.two_pow_pos scale)
        omega
      · exact isFinest
    rw [leadingZero]
    rfl
  · have logLt : (numerator / denominator).log2 < scale + 53 :=
      (Nat.log2_lt isZero).mpr quotientLt
    rcases least with least | isFinest
    · have leLog : scale + 52 ≤ (numerator / denominator).log2 := by
        rw [Nat.le_log2 isZero, Nat.le_div_iff_mul_le positive, Nat.pow_add,
          Nat.mul_comm (2 ^ scale), Nat.mul_assoc, Nat.mul_comm (2 ^ scale)]
        exact least
      omega
    · omega

/-- A quotient is rounded on the grid of its scale. -/
theorem nearest_eq
    {numerator denominator scale steps : Nat}
    (isScale : (numerator / denominator).log2 - 52 = scale)
    (rounded : divideToEven numerator (denominator * 2 ^ scale) = steps)
    (le : scale * leadingBit + steps ≤ infinity) :
    nearest numerator denominator = scale * leadingBit + steps := by
  rw [nearest]
  simp only [isScale, Nat.shiftLeft_eq, rounded]
  exact Nat.min_eq_right le

/-- A bound of a cell is half a step away. -/
theorem add_steps_mul (steps width denominator : Nat) :
    (steps * width + (steps + 1) * width) * denominator =
      2 * (steps * (denominator * width)) + denominator * width := by
  rw [Nat.succ_mul, ← Nat.add_assoc, Nat.add_mul, ← Nat.two_mul, Nat.mul_assoc,
    Nat.mul_assoc, Nat.mul_comm width]

/-- A quotient in the cell of a magnitude is less than half a step above it, and
stays below the next power of two. -/
theorem InCell.below
    {numerator denominator scale steps : Nat}
    (cell : InCell (scale * leadingBit + steps) numerator denominator)
    (positive : 0 < denominator)
    (lt : steps < 2 * leadingBit)
    (normal : leadingBit ≤ steps ∨ scale = 0) :
    2 * numerator ≤
        2 * (steps * (denominator * 2 ^ scale)) + denominator * 2 ^ scale ∧
      numerator < 2 * leadingBit * (denominator * 2 ^ scale) := by
  have upper := cell.upper
  rw [units_scale (Nat.le_of_lt lt) normal, units_succ lt normal,
    add_steps_mul] at upper
  refine ⟨upper, ?_⟩
  have spaced : 0 < denominator * 2 ^ scale :=
    Nat.mul_pos positive (Nat.two_pow_pos scale)
  generalize denominator * 2 ^ scale = width at *
  have next := Nat.mul_le_mul_right width (Nat.succ_le_of_lt lt)
  rw [Nat.succ_mul] at next
  omega

/-- A quotient in the cell of a magnitude between two powers of two, or below
all of them, is rounded to that magnitude. -/
theorem InCell.nearest_of_between
    {numerator denominator scale steps : Nat}
    (cell : InCell (scale * leadingBit + steps) numerator denominator)
    (positive : 0 < denominator)
    (nonzero : 0 < steps)
    (lt : steps < 2 * leadingBit)
    (between : leadingBit < steps ∨ scale = 0)
    (le : scale * leadingBit + steps ≤ infinity) :
    nearest numerator denominator = scale * leadingBit + steps := by
  have normal : leadingBit ≤ steps ∨ scale = 0 := by
    omega
  obtain ⟨upper, below⟩ := cell.below positive lt normal
  obtain ⟨before, rfl⟩ := Nat.exists_eq_succ_of_ne_zero (Nat.ne_of_gt nonzero)
  have unitsBefore :
      units (scale * leadingBit + before.succ - 1) = before * 2 ^ scale := by
    rw [Nat.add_succ_sub_one]
    apply units_scale (by omega)
    omega
  have lower := cell.lower
  have strict := cell.strict
  rw [unitsBefore, units_scale (Nat.le_of_lt lt) normal, add_steps_mul] at lower
  rw [unitsBefore, units_scale (Nat.le_of_lt lt) normal, add_steps_mul,
    units_succ lt normal, add_steps_mul] at strict
  have width : 0 < denominator * 2 ^ scale :=
    Nat.mul_pos positive (Nat.two_pow_pos scale)
  have next : before.succ * (denominator * 2 ^ scale) =
      before * (denominator * 2 ^ scale) + denominator * 2 ^ scale :=
    Nat.succ_mul ..
  apply nearest_eq _ _ le
  · apply log2_sub_eq_scale positive _ below
    rcases between with above | isFinest
    · left
      have large : leadingBit * (denominator * 2 ^ scale) ≤
          before * (denominator * 2 ^ scale) :=
        Nat.mul_le_mul_right _ (Nat.le_of_lt_succ above)
      omega
    · exact .inr isFinest
  · have sameParity :
        (scale * leadingBit + before.succ) % 2 = before.succ % 2 := by
      simp only [leadingBit]
      omega
    rw [sameParity] at strict
    apply IsNearest.divideToEven_eq _ width
    constructor <;> omega

/-- A quotient in the cell of a power of two is rounded to that power, also if it
is less and rounded with a finer scale. -/
theorem InCell.nearest_of_power
    {numerator denominator scale : Nat}
    (cell : InCell ((scale + 1) * leadingBit + leadingBit) numerator denominator)
    (positive : 0 < denominator)
    (le : (scale + 1) * leadingBit + leadingBit ≤ infinity) :
    nearest numerator denominator = (scale + 1) * leadingBit + leadingBit := by
  have lt : leadingBit < 2 * leadingBit := by
    decide
  obtain ⟨upper, below⟩ := cell.below positive lt (.inl (Nat.le_refl _))
  have unitsBefore :
      units ((scale + 1) * leadingBit + leadingBit - 1) =
        (2 * leadingBit - 1) * 2 ^ scale := by
    have pred : (scale + 1) * leadingBit + leadingBit - 1 =
        scale * leadingBit + (2 * leadingBit - 1) := by
      simp only [leadingBit]
      omega
    rw [pred]
    apply units_scale (by decide)
    left
    decide
  have width : 0 < denominator * 2 ^ scale :=
    Nat.mul_pos positive (Nat.two_pow_pos scale)
  have double : denominator * 2 ^ (scale + 1) =
      2 * (denominator * 2 ^ scale) := by
    rw [Nat.pow_succ, ← Nat.mul_assoc, Nat.mul_comm]
  have lower : (4 * leadingBit - 1) * (denominator * 2 ^ scale) ≤
      2 * numerator := by
    have bound := cell.lower
    rw [unitsBefore, units_scale (Nat.le_of_lt lt) (.inl (Nat.le_refl _)),
      Nat.pow_succ, Nat.mul_comm (2 ^ scale) 2, ← Nat.mul_assoc, ← Nat.add_mul,
      Nat.mul_assoc, Nat.mul_comm (2 ^ scale)] at bound
    exact bound
  rw [double] at upper below
  by_cases reaches :
      leadingBit * (2 * (denominator * 2 ^ scale)) ≤ numerator
  · -- The quotient is the power or more, and has its scale.
    apply nearest_eq _ _ le
    · apply log2_sub_eq_scale positive
      · left
        rw [double]
        exact reaches
      · rw [double]
        exact below
    · rw [double]
      apply IsNearest.divideToEven_eq ⟨_, upper, _⟩ (by omega)
      · omega
      · intro odd
        cases odd
  · -- The quotient is less, and the power is the last step of the finer scale.
    have same : (scale + 1) * leadingBit + leadingBit =
        scale * leadingBit + 2 * leadingBit := by
      simp only [leadingBit]
      omega
    rw [same] at le ⊢
    simp only [leadingBit] at reaches lower
    apply nearest_eq _ _ le
    · apply log2_sub_eq_scale positive
      · left
        simp only [leadingBit]
        omega
      · simp only [leadingBit]
        omega
    · apply IsNearest.divideToEven_eq ⟨_, _, _⟩ width
      · simp only [leadingBit]
        omega
      · simp only [leadingBit]
        omega
      · intro odd
        cases odd

/-- A quotient in the cell of a magnitude is rounded to it. -/
theorem InCell.nearest_eq
    {size numerator denominator : Nat}
    (cell : InCell size numerator denominator)
    (positive : 0 < denominator)
    (nonzero : 0 < size)
    (le : size ≤ infinity) :
    nearest numerator denominator = size := by
  obtain ⟨scale, steps, rfl, lt, normal⟩ := exists_scale size
  by_cases between : leadingBit < steps ∨ scale = 0
  · apply cell.nearest_of_between positive _ lt between le
    rcases between with above | isFinest
    · exact Nat.lt_of_le_of_lt (Nat.zero_le _) above
    · rw [isFinest] at nonzero
      omega
  · obtain ⟨finer, rfl⟩ : ∃ finer, scale = finer + 1 :=
      ⟨scale - 1, by omega⟩
    have isPower : steps = leadingBit := by
      omega
    rw [isPower] at cell le ⊢
    exact cell.nearest_of_power positive le

end Binary64
end CalculatorTrials
