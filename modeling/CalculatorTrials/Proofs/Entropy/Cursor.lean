import CalculatorTrials.Entropy.Cursor

/-!
# Cursors hand out the stream

Whatever part of a block a cursor still keeps, the bytes that it hands out next
are those of the stream at its position, and a buffer is filled with as many of
them as it is long.
-/

namespace CalculatorTrials
namespace KeyStream

theorem bytes_succ (origin : Block) (first count : Nat) :
    bytes origin first (count + 1) =
      byte origin first :: bytes origin (first + 1) count := rfl

theorem bytes_append (origin : Block) (first count more : Nat) :
    bytes origin first count ++ bytes origin (first + count) more =
      bytes origin first (count + more) := by
  rw [bytes, bytes, bytes, ← List.map_append, List.range'_append_1]

theorem length_blocks_one (origin : Block) (counter : UInt64) :
    (blocks origin counter 1).length = 64 := rfl

/-- A block has the bytes of the stream from a multiple of its length on. -/
theorem blocks_one_eq_bytes (origin : Block) (counter : Nat) :
    blocks origin counter.toUInt64 1 = bytes origin (64 * counter) 64 := by
  refine List.ext_getElem ?_ fun index inBlock _ => ?_
  · simp [bytes, length_blocks_one]
  · have short : index < 64 := inBlock
    have sameBlock : (64 * counter + index) / 64 = counter := by omega
    have samePlace : (64 * counter + index) % 64 = index := by omega
    simp only [bytes, List.getElem_map, List.getElem_range', Nat.one_mul, byte,
      sameBlock, samePlace]
    rw [List.getD_eq_getElem?_getD, List.getElem?_eq_getElem inBlock,
      Option.getD_some]

/-- Blocks in a row have the bytes of the stream in a row. -/
theorem blocks_eq_bytes (origin : Block) (counter count : Nat) :
    blocks origin counter.toUInt64 count =
      bytes origin (64 * counter) (64 * count) := by
  induction count generalizing counter with
  | zero => rfl
  | succ count inductionHypothesis =>
      have following : counter.toUInt64 + (1 : Nat).toUInt64 =
          (counter + 1).toUInt64 := by simp
      rw [Nat.add_comm, blocks_add, following, inductionHypothesis,
        blocks_one_eq_bytes, Nat.mul_add, Nat.mul_add, bytes_append]

namespace Cursor

/-- The cursor has handed out the bytes up to a position. Those that it keeps
follow there, and the next block follows them. -/
structure At (cursor : Cursor) (origin : Block) (position : Nat) : Prop where
  origin_eq : cursor.origin = origin
  pending_eq : cursor.pending = bytes origin position cursor.pending.length
  follows : ∃ block, position + cursor.pending.length = 64 * block ∧
    cursor.counter = block.toUInt64

/-- A new cursor has handed out nothing. -/
theorem at_start (seed : UInt64) :
    (start seed).At (KeyStream.origin seed) 0 :=
  ⟨rfl, rfl, 0, rfl, rfl⟩

variable {cursor : Cursor} {origin : Block} {position : Nat}

/-- One byte of the stream is handed out, and the cursor is behind it. -/
theorem At.next (isAt : cursor.At origin position) :
    cursor.next.1 = byte origin position ∧
      cursor.next.2.At origin (position + 1) := by
  obtain ⟨cursorOrigin, counter, pending⟩ := cursor
  obtain ⟨rfl, pendingEq, block, ends, rfl⟩ := isAt
  cases pending with
  | cons first pending =>
      obtain ⟨firstEq, pendingEq⟩ := List.cons.inj pendingEq
      refine ⟨firstEq, rfl, pendingEq, block, ?_, rfl⟩
      rw [← ends]
      exact Nat.add_right_comm position 1 pending.length
  | nil =>
      -- A block has been used up, so the position is the start of the next one.
      obtain rfl : position = 64 * block := ends
      have isBlock := blocks_one_eq_bytes cursorOrigin block
      refine ⟨congrArg (List.headD · 0) isBlock, rfl, ?_, block + 1, ?_, ?_⟩
      · exact congrArg List.tail isBlock
      · have kept : (blocks cursorOrigin block.toUInt64 1).tail.length = 63 := by
          rw [List.length_tail, length_blocks_one]
        exact congrArg (64 * block + 1 + ·) kept
      · simp [Cursor.next]

/-- A buffer is filled with the next bytes of the stream, whatever it held. -/
theorem At.fill
    (isAt : cursor.At origin position)
    (buffer : List UInt8) :
    (cursor.fill buffer).1 = bytes origin position buffer.length ∧
      (cursor.fill buffer).2.At origin (position + buffer.length) := by
  induction buffer generalizing cursor position with
  | nil => exact ⟨rfl, isAt⟩
  | cons stale buffer inductionHypothesis =>
      obtain ⟨first, behind⟩ := isAt.next
      obtain ⟨rest, last⟩ := inductionHypothesis behind
      refine ⟨?_, ?_⟩
      · rw [Cursor.fill, first, rest, List.length_cons, bytes_succ]
      · rw [List.length_cons, Nat.add_comm buffer.length, ← Nat.add_assoc]
        exact last

end Cursor
end KeyStream
end CalculatorTrials
