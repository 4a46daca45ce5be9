import CalculatorTrials.Entropy.Draw

/-!
# Drawing again and again

A state can be passed through steps that draw, as long as a chain goes on, and a
draw can be made a number of times from what it leaves of the same bytes.
-/

namespace CalculatorTrials
namespace Draw

/-- The state behind a loop of steps, and the bytes that the loop leaves. -/
def loopFrom
    (step : State → Draw State)
    (state : State)
    (bytes : List UInt8) : State × List UInt8 :=
  if _ : (continues.run bytes).1 = true then
    let next := (step state).run (continues.run bytes).2
    loopFrom step next.1 next.2
  else (state, (continues.run bytes).2)
termination_by bytes.length
decreasing_by
  exact Nat.lt_of_le_of_lt ((step state).length_le _)
    (length_continues_lt (by assumption))

/-- A loop adds no bytes. -/
theorem length_loopFrom_le
    (step : State → Draw State)
    (state : State)
    (bytes : List UInt8) :
    (loopFrom step state bytes).2.length ≤ bytes.length := by
  fun_induction loopFrom with
  | case1 state bytes goesOn next inductionHypothesis =>
      exact Nat.le_trans inductionHypothesis
        (Nat.le_trans ((step state).length_le _) (continues.length_le _))
  | case2 state bytes stops => exact continues.length_le _

/-- A loop that leaves bytes reads those in front of them alone. -/
theorem loopFrom_reads
    (step : State → Draw State)
    (state : State)
    (bytes : List UInt8)
    (leaves : (loopFrom step state bytes).2 ≠ []) :
    ∃ front, front ++ (loopFrom step state bytes).2 = bytes ∧
      ∀ later, loopFrom step state (front ++ later) =
        ((loopFrom step state bytes).1, later) := by
  fun_induction loopFrom with
  | case1 state bytes goesOn next inductionHypothesis =>
      have nextLeaves : next.2 ≠ [] :=
        ne_nil_of_length_le (length_loopFrom_le ..) leaves
      obtain ⟨first, firstEq, firstRun⟩ := continues.reads bytes
        (ne_nil_of_length_le ((step state).length_le _) nextLeaves)
      obtain ⟨second, secondEq, secondRun⟩ := (step state).reads _ nextLeaves
      obtain ⟨last, lastEq, lastRun⟩ := inductionHypothesis leaves
      refine ⟨first ++ (second ++ last), ?_, fun later => ?_⟩
      · simp only [List.append_assoc]
        rw [lastEq, secondEq, firstEq]
      · rw [loopFrom]
        simp only [List.append_assoc, firstRun, goesOn, secondRun, dite_true]
        exact lastRun later
  | case2 state bytes stops =>
      obtain ⟨front, frontEq, frontRun⟩ := continues.reads bytes leaves
      refine ⟨front, frontEq, fun later => ?_⟩
      rw [loopFrom]
      simp [frontRun, stops]

/-- Pass a state through steps as long as a chain goes on. -/
def loop (step : State → Draw State) (state : State) : Draw State where
  run := loopFrom step state
  length_le := length_loopFrom_le step state
  reads := loopFrom_reads step state

/-- A number of draws, one after another, each with the bytes that it leaves. -/
def runs (draw : Draw α) : (count : Nat) → List UInt8 → List (α × List UInt8)
  | 0, _ => []
  | count + 1, bytes =>
      let next := draw.run bytes
      next :: draw.runs count next.2

@[simp] theorem length_runs
    (draw : Draw α)
    (count : Nat)
    (bytes : List UInt8) :
    (draw.runs count bytes).length = count := by
  induction count generalizing bytes with
  | zero => rfl
  | succ count inductionHypothesis =>
      exact congrArg Nat.succ (inductionHypothesis _)

end Draw
end CalculatorTrials
