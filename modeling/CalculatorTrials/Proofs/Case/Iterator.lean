import CalculatorTrials.Case.Iterator
import CalculatorTrials.Proofs.Entropy.Cursor
import CalculatorTrials.Proofs.Generator.Watched

/-!
# Cases have bytes of their own

Each case of an iterator reads its own part of the key stream, however much of
the parts before it was needed. So cases can be passed over, and the cases that
are made in order are those that can be had by their index.
-/

namespace CalculatorTrials

/-- The bytes of a case follow those of the cases before it. -/
theorem KeyStream.caseBytes_eq_bytes (origin : Block) (index : Nat) :
    caseBytes origin index = bytes origin (bytesPerCase * index) bytesPerCase := by
  have firstByte : 64 * (index * (bytesPerCase / 64)) = bytesPerCase * index := by
    simp only [bytesPerCase]
    omega
  rw [caseBytes, caseStart, blocks_eq_bytes, firstByte]
  rfl

/-- A case before an observer, drawn from its part of the stream. -/
theorem Generator.run_watch_bytes
    (generator : Generator)
    (observer : Observer State)
    (origin : KeyStream.Block)
    (index : Nat) :
    ((generator.watch observer .expression).run
        (KeyStream.bytes origin (bytesPerCase * index) bytesPerCase)).1 =
      observer.observe (generator.caseAt origin index).events := by
  rw [generator.run_watch, generator.caseAt_eq, KeyStream.caseBytes_eq_bytes]

namespace CaseIterator

variable {iterator : CaseIterator State} {generator : Generator}
  {observer : Observer State} {seed : UInt64} {index : Nat}

/-- The iterator comes to the case with an index next, whatever its buffer
holds. -/
structure At
    (iterator : CaseIterator State)
    (generator : Generator)
    (observer : Observer State)
    (seed : UInt64)
    (index : Nat) : Prop where
  generator_eq : iterator.generator = generator
  observer_eq : iterator.observer = observer
  cursor_at :
    iterator.cursor.At (KeyStream.origin seed) (bytesPerCase * index)

theorem at_iterate
    (generator : Generator)
    (observer : Observer State)
    (seed : UInt64) :
    (generator.iterate observer seed).At generator observer seed 0 :=
  ⟨rfl, rfl, KeyStream.Cursor.at_start seed⟩

/-- The next case is the one with the index, and the one behind it follows. -/
theorem At.next (isAt : iterator.At generator observer seed index) :
    iterator.next.1 =
        observer.observe
          (generator.caseAt (KeyStream.origin seed) index).events ∧
      iterator.next.2.At generator observer seed (index + 1) := by
  obtain ⟨rfl, rfl, cursorAt⟩ := isAt
  obtain ⟨filled, behind⟩ := cursorAt.fill iterator.buffer
  rw [iterator.length_buffer] at filled behind
  refine ⟨?_, rfl, rfl, ?_⟩
  · rw [← Generator.run_watch_bytes, ← filled]
    rfl
  · rw [Nat.mul_succ]
    exact behind

/-- Passing over cases comes to a later one. -/
theorem At.skip
    (isAt : iterator.At generator observer seed index)
    (count : Nat) :
    (iterator.skip count).At generator observer seed (index + count) := by
  induction count generalizing iterator index with
  | zero => exact isAt
  | succ count inductionHypothesis =>
      rw [← Nat.add_assoc, Nat.add_right_comm]
      exact inductionHypothesis isAt.next.2

/-- The cases that are made are those with the indices from there on. -/
theorem At.take_eq
    (isAt : iterator.At generator observer seed index)
    (count : Nat) :
    iterator.take count =
      (generator.cases seed index count).map fun derivation =>
        observer.observe derivation.events := by
  induction count generalizing iterator index with
  | zero => rfl
  | succ count inductionHypothesis =>
      obtain ⟨first, behind⟩ := isAt.next
      rw [CaseIterator.take, first, inductionHypothesis behind]
      rfl

@[simp] theorem length_take (iterator : CaseIterator State) (count : Nat) :
    (iterator.take count).length = count := by
  induction count generalizing iterator with
  | zero => rfl
  | succ count inductionHypothesis =>
      exact congrArg Nat.succ (inductionHypothesis _)

/-- More cases are the first ones and those behind them. -/
theorem take_add (iterator : CaseIterator State) (first more : Nat) :
    iterator.take (first + more) =
      iterator.take first ++ (iterator.skip first).take more := by
  induction first generalizing iterator with
  | zero => rw [Nat.zero_add]; rfl
  | succ first inductionHypothesis =>
      rw [Nat.succ_add]
      exact congrArg (List.cons _) (inductionHypothesis _)

/-- Cases behind others are a part of all cases that are made in one go. -/
theorem take_skip_eq
    (iterator : CaseIterator State)
    {first count longer : Nat}
    (fits : first + count ≤ longer) :
    (iterator.skip first).take count =
      ((iterator.take longer).drop first).take count := by
  obtain ⟨rest, rfl⟩ := Nat.exists_eq_add_of_le fits
  rw [take_add, take_add, List.append_assoc,
    List.drop_left' (length_take ..), List.take_left' (length_take ..)]

end CaseIterator

end CalculatorTrials
