import CalculatorTrials.Entropy.KeyStream

/-!
# Reading a key stream in order

A cursor hands out the bytes of a stream one by one. It works a block out when it
needs the first of its bytes, and keeps those that it has not handed out yet.
-/

namespace CalculatorTrials
namespace KeyStream

/-- A byte of a stream, in the block that has it. A block has 64 bytes. -/
def byte (origin : Block) (index : Nat) : UInt8 :=
  (blocks origin (index / 64).toUInt64 1).getD (index % 64) 0

/-- A number of bytes of a stream, from an index on. -/
def bytes (origin : Block) (first count : Nat) : List UInt8 :=
  (List.range' first count).map (byte origin)

/-- A place in a stream up to which its bytes have been handed out. -/
structure Cursor where
  /-- The block that the cipher starts from. -/
  origin : Block
  /-- The block to work out next. -/
  counter : UInt64
  /-- The bytes of the block before it that have not been handed out. -/
  pending : List UInt8

namespace Cursor

/-- The start of a seed's stream. -/
def start (seed : UInt64) : Cursor := ⟨KeyStream.origin seed, 0, []⟩

/-- Hand out one byte. -/
def next (cursor : Cursor) : UInt8 × Cursor :=
  match cursor.pending with
  | byte :: pending => (byte, { cursor with pending })
  | [] =>
      let block := blocks cursor.origin cursor.counter 1
      (block.headD 0,
        { cursor with counter := cursor.counter + 1, pending := block.tail })

/-- Overwrite the bytes of a buffer, from its start to its end. -/
def fill (cursor : Cursor) : (buffer : List UInt8) → List UInt8 × Cursor
  | [] => ([], cursor)
  | _ :: stale =>
      let first := cursor.next
      let rest := first.2.fill stale
      (first.1 :: rest.1, rest.2)

@[simp] theorem length_fill
    (cursor : Cursor)
    (buffer : List UInt8) :
    (cursor.fill buffer).1.length = buffer.length := by
  induction buffer generalizing cursor with
  | nil => rfl
  | cons _ stale inductionHypothesis =>
      exact congrArg Nat.succ (inductionHypothesis _)

end Cursor
end KeyStream
end CalculatorTrials
