/-!
# Drawing from bytes

All choices are drawn from a list of bytes, from its start. A draw reads no
byte that its choice does not need, and it can be made with too few bytes or
none: the bytes that are missing count for nothing, and the first choice is
taken.
-/

namespace CalculatorTrials

/-- A choice drawn from bytes, with the bytes that it leaves. -/
structure Draw (α : Type) where
  /-- Draw from bytes. -/
  run : List UInt8 → α × List UInt8
  /-- No bytes are added. -/
  length_le : ∀ bytes, (run bytes).2.length ≤ bytes.length
  /-- A draw that leaves bytes reads those in front of them, and all others make
  no difference. -/
  reads : ∀ bytes, (run bytes).2 ≠ [] →
    ∃ front, front ++ (run bytes).2 = bytes ∧
      ∀ later, run (front ++ later) = ((run bytes).1, later)

namespace Draw

/-- Where bytes are left, there were bytes before. -/
theorem ne_nil_of_length_le
    {bytes rest : List UInt8}
    (length_le : rest.length ≤ bytes.length)
    (leaves : rest ≠ []) : bytes ≠ [] :=
  List.ne_nil_of_length_pos
    (Nat.lt_of_lt_of_le (List.length_pos_iff.mpr leaves) length_le)

/-- A choice that needs no bytes. -/
protected def pure (value : α) : Draw α where
  run bytes := (value, bytes)
  length_le _ := Nat.le_refl _
  reads _ _ := ⟨[], rfl, fun _ => rfl⟩

/-- One draw after another. -/
protected def bind (first : Draw α) (next : α → Draw β) : Draw β where
  run bytes :=
    let (value, rest) := first.run bytes
    (next value).run rest
  length_le bytes :=
    Nat.le_trans ((next _).length_le _) (first.length_le bytes)
  reads bytes leaves := by
    obtain ⟨middle, middleEq, middleRun⟩ := (next _).reads _ leaves
    obtain ⟨front, frontEq, frontRun⟩ :=
      first.reads bytes (ne_nil_of_length_le ((next _).length_le _) leaves)
    refine ⟨front ++ middle, ?_, fun later => ?_⟩
    · rw [List.append_assoc, middleEq, frontEq]
    · rw [List.append_assoc]
      simp only [frontRun, middleRun]

instance : Monad Draw where
  pure := Draw.pure
  bind := Draw.bind

@[simp] theorem run_pure
    (value : α)
    (bytes : List UInt8) :
    (pure value : Draw α).run bytes = (value, bytes) := rfl

@[simp] theorem run_bind
    (first : Draw α)
    (next : α → Draw β)
    (bytes : List UInt8) :
    (first >>= next).run bytes =
      (next (first.run bytes).1).run (first.run bytes).2 := rfl

@[simp] theorem run_map
    (function : α → β)
    (draw : Draw α)
    (bytes : List UInt8) :
    (function <$> draw).run bytes =
      (function (draw.run bytes).1, (draw.run bytes).2) := rfl

/-- Read a number, the most significant byte first, as long as bytes are left
in a word of a width and the range is not exhausted. -/
def gather : (width range number : Nat) → List UInt8 → Nat × List UInt8
  | 0, _, number, bytes => (number, bytes)
  | _ + 1, _, number, [] => (number, [])
  | width + 1, range, number, byte :: bytes =>
      if range = 0 then (number, byte :: bytes)
      else gather width (range / 256) (256 * number + byte.toNat) bytes

/-- Gathering adds no bytes. -/
theorem length_gather_le
    (width range number : Nat)
    (bytes : List UInt8) :
    (gather width range number bytes).2.length ≤ bytes.length := by
  induction width generalizing range number bytes with
  | zero => simp [gather]
  | succ width inductionHypothesis =>
      cases bytes with
      | nil => simp [gather]
      | cons byte bytes =>
          simp only [gather]
          split
          · exact Nat.le_refl _
          · exact Nat.le_succ_of_le (inductionHypothesis ..)

/-- Gathering that leaves bytes reads those in front of them alone. -/
theorem gather_reads
    (width range number : Nat)
    (bytes : List UInt8)
    (leaves : (gather width range number bytes).2 ≠ []) :
    ∃ front, front ++ (gather width range number bytes).2 = bytes ∧
      ∀ later, gather width range number (front ++ later) =
        ((gather width range number bytes).1, later) := by
  induction width generalizing range number bytes with
  | zero => exact ⟨[], rfl, fun _ => rfl⟩
  | succ width inductionHypothesis =>
      cases bytes with
      | nil => exact absurd rfl leaves
      | cons byte bytes =>
          by_cases exhausted : range = 0
          · refine ⟨[], by simp [gather, exhausted], fun later => ?_⟩
            cases later <;> simp [gather, exhausted]
          · simp only [gather, exhausted, if_false] at leaves ⊢
            obtain ⟨front, frontEq, frontRun⟩ :=
              inductionHypothesis _ _ bytes leaves
            refine ⟨byte :: front, congrArg (List.cons byte) frontEq, fun later => ?_⟩
            simp [gather, exhausted, frontRun]

/-- A number from `low` to `high`, drawn as a word of a width in bytes. -/
def between (width low high : Nat) : Draw Nat where
  run bytes :=
    let (number, rest) := gather width (high - low) 0 bytes
    (low + number % (high - low + 1), rest)
  length_le bytes := length_gather_le width (high - low) 0 bytes
  reads bytes leaves := by
    obtain ⟨front, frontEq, frontRun⟩ := gather_reads _ _ _ bytes leaves
    exact ⟨front, frontEq, fun later => by simp only [frontRun]⟩

/-- One of a list of choices. -/
def choose (first : α) (others : List α) : Draw α := do
  let index ← between 8 0 others.length
  return (first :: others).getD index first

/-- Whether one of a number of equal chances comes up. Odds of zero count as
one. -/
def oneIn (odds : UInt16) : Draw Bool := do
  let high := max odds.toNat 1
  let number ← between 2 1 high
  return number == high

/-- Whether a chain goes on, which it does in two of three cases. -/
def continues : Draw Bool := do
  let number ← between 1 0 2
  return number != 0

/-- A chain goes on only at the cost of a byte. -/
theorem length_continues_lt
    {bytes : List UInt8}
    (goesOn : (continues.run bytes).1 = true) :
    (continues.run bytes).2.length < bytes.length := by
  cases bytes with
  | nil => simp [continues, between, gather] at goesOn
  | cons byte bytes => simp [continues, between, gather]

/-- The rest of a chain whose links so far are joined in `left`. -/
def extend
    (join : α → β → γ → α)
    (operator : Draw β)
    (operand : Draw γ)
    (left : α)
    (bytes : List UInt8) : α × List UInt8 :=
  if _ : (continues.run bytes).1 = true then
    let symbol := operator.run (continues.run bytes).2
    let right := operand.run symbol.2
    extend join operator operand (join left symbol.1 right.1) right.2
  else (left, (continues.run bytes).2)
termination_by bytes.length
decreasing_by
  exact Nat.lt_of_le_of_lt
    (Nat.le_trans (operand.length_le _) (operator.length_le _))
    (length_continues_lt (by assumption))

/-- Extending a chain adds no bytes. -/
theorem length_extend_le
    (join : α → β → γ → α)
    (operator : Draw β)
    (operand : Draw γ)
    (left : α)
    (bytes : List UInt8) :
    (extend join operator operand left bytes).2.length ≤ bytes.length := by
  fun_induction extend with
  | case1 left bytes goesOn symbol right inductionHypothesis =>
      exact Nat.le_trans inductionHypothesis
        (Nat.le_trans (operand.length_le _)
          (Nat.le_trans (operator.length_le _) (continues.length_le _)))
  | case2 left bytes stops => exact continues.length_le _

/-- Extending a chain that leaves bytes reads those in front of them alone. -/
theorem extend_reads
    (join : α → β → γ → α)
    (operator : Draw β)
    (operand : Draw γ)
    (left : α)
    (bytes : List UInt8)
    (leaves : (extend join operator operand left bytes).2 ≠ []) :
    ∃ front, front ++ (extend join operator operand left bytes).2 = bytes ∧
      ∀ later, extend join operator operand left (front ++ later) =
        ((extend join operator operand left bytes).1, later) := by
  fun_induction extend with
  | case1 left bytes goesOn symbol right inductionHypothesis =>
      have rightLeaves : right.2 ≠ [] :=
        ne_nil_of_length_le (length_extend_le ..) leaves
      have symbolLeaves : symbol.2 ≠ [] :=
        ne_nil_of_length_le (operand.length_le _) rightLeaves
      obtain ⟨first, firstEq, firstRun⟩ := continues.reads bytes
        (ne_nil_of_length_le (operator.length_le _) symbolLeaves)
      obtain ⟨second, secondEq, secondRun⟩ := operator.reads _ symbolLeaves
      obtain ⟨third, thirdEq, thirdRun⟩ := operand.reads _ rightLeaves
      obtain ⟨last, lastEq, lastRun⟩ := inductionHypothesis leaves
      refine ⟨first ++ (second ++ (third ++ last)), ?_, fun later => ?_⟩
      · simp only [List.append_assoc]
        rw [lastEq, thirdEq, secondEq, firstEq]
      · rw [extend]
        simp only [List.append_assoc, firstRun, goesOn, secondRun, thirdRun,
          dite_true]
        exact lastRun later
  | case2 left bytes stops =>
      obtain ⟨front, frontEq, frontRun⟩ := continues.reads bytes leaves
      refine ⟨front, frontEq, fun later => ?_⟩
      rw [extend]
      simp [frontRun, stops]

/-- A chain of operands, joined from the left. -/
def chain
    (join : α → β → γ → α)
    (operator : Draw β)
    (operand : Draw γ)
    (left : α) : Draw α where
  run := extend join operator operand left
  length_le := length_extend_le join operator operand left
  reads := extend_reads join operator operand left

end Draw
end CalculatorTrials
