import CalculatorTrials.Entropy.Draw

/-!
# Draws from no bytes

A draw can be made when all bytes have been read. Each kind of choice then has
one value that it falls back to: the least number of a range, the first of a list
of choices, no chance of several, and the end of a chain.
-/

namespace CalculatorTrials
namespace Draw

/-- Where no bytes are left, the draw gives the value. -/
def FallsBackTo (draw : Draw α) (value : α) : Prop :=
  draw.run [] = (value, [])

/-! ## Draws put together -/

theorem fallsBackTo_pure (value : α) : (pure value : Draw α).FallsBackTo value :=
  rfl

theorem FallsBackTo.bind
    {first : Draw α}
    {next : α → Draw β}
    {middle : α}
    {value : β}
    (fallsBack : first.FallsBackTo middle)
    (nextFallsBack : (next middle).FallsBackTo value) :
    (first >>= next).FallsBackTo value := by
  unfold FallsBackTo
  rw [run_bind, fallsBack]
  exact nextFallsBack

theorem FallsBackTo.map
    {draw : Draw α}
    {value : α}
    (fallsBack : draw.FallsBackTo value)
    (function : α → β) :
    (function <$> draw).FallsBackTo (function value) := by
  unfold FallsBackTo
  rw [run_map, fallsBack]

/-! ## Choices -/

/-- A range falls back to its least number. -/
theorem fallsBackTo_between (width low high : Nat) :
    (between width low high).FallsBackTo low := by
  have nothing : gather width (high - low) 0 [] = (0, []) := by
    cases width <;> rfl
  unfold FallsBackTo
  simp only [between, nothing, Nat.zero_mod, Nat.add_zero]

/-- A list of choices falls back to the first of them. -/
theorem fallsBackTo_choose (first : α) (others : List α) :
    (choose first others).FallsBackTo first :=
  (fallsBackTo_between 8 0 others.length).bind (fallsBackTo_pure first)

/-- The only chance of one comes up, and none of several does. -/
theorem fallsBackTo_oneIn (odds : UInt16) :
    (oneIn odds).FallsBackTo (decide (odds ≤ 1)) := by
  refine (fallsBackTo_between 2 1 _).bind ?_
  have only : (1 == max odds.toNat 1) = decide (odds ≤ 1) := by
    rw [Bool.eq_iff_iff, beq_iff_eq, decide_eq_true_iff,
      UInt16.le_iff_toNat_le, UInt16.toNat_one]
    omega
  rw [only]
  exact fallsBackTo_pure _

/-- A chain does not go on. -/
theorem fallsBackTo_continues : continues.FallsBackTo false :=
  (fallsBackTo_between 1 0 2).bind (fallsBackTo_pure false)

/-- A chain falls back to its links so far. -/
theorem fallsBackTo_chain
    (join : α → β → γ → α)
    (operator : Draw β)
    (operand : Draw γ)
    (left : α) :
    (chain join operator operand left).FallsBackTo left := by
  change extend join operator operand left [] = (left, [])
  rw [extend, fallsBackTo_continues]
  rfl

end Draw
end CalculatorTrials
