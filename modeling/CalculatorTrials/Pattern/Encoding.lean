import CalculatorTrials.Pattern.CharacterSet

/-!
# Encodings of sets

The characters of a set are encoded as one to four bytes. The encodings of a
range are cut into sequences of byte ranges, such that every choice of bytes
from the ranges of a sequence is the encoding of a character of the set.
-/

namespace CalculatorTrials
namespace Pattern

/-- First and last byte of each place of an encoding. -/
abbrev ByteRanges := List (Nat × Nat)

namespace ByteRanges

/-- The last code points that one, two and three bytes encode. -/
def lengthEnds : List Nat := [0x7F, 0x7FF, 0xFFFF]

/-- The numbers of code points that have all but their last one, two and three
bytes in common. -/
def blocks : List Nat := [0x40, 0x1000, 0x40000]

/-- Where a range has to be cut because it is in several blocks and does not
fill the first or the last of them. -/
def cut? (first last : Nat) : Option Nat :=
  blocks.findSome? fun block =>
    if first / block = last / block then none
    else if first % block ≠ 0 then some ((first / block + 1) * block)
    else if last % block ≠ block - 1 then some (last / block * block)
    else none

/-- The bytes of a code point. -/
def encode (code : Nat) : List Nat :=
  (String.utf8EncodeChar (Char.ofNat code)).map (·.toNat)

/-- The sequences of a range without surrogates, with a number of cuts. -/
def ofRange : (cuts : Nat) → (first last : Nat) → List ByteRanges
  | 0, _, _ => []
  | cuts + 1, first, last =>
      match lengthEnds.find? fun stop => first ≤ stop && stop < last with
      | some stop => ofRange cuts first stop ++ ofRange cuts (stop + 1) last
      | none =>
          if last ≤ 0x7F then [[(first, last)]]
          else
            match cut? first last with
            | some start =>
                ofRange cuts first (start - 1) ++ ofRange cuts start last
            | none => [(encode first).zip (encode last)]

/-- The sequences of a set, in ascending order. A range is cut at most three
times for the number of bytes and six times for blocks. -/
def ofSet (set : CharacterSet) : List ByteRanges :=
  set.ranges.flatMap fun (first, last) => ofRange 16 first last

/-- The rests of sequences by their first byte ranges. -/
def byFirst (sequences : List ByteRanges) : List ((Nat × Nat) × List ByteRanges) :=
  (sequences.foldl
    (fun groups sequence =>
      match sequence, groups with
      | [], _ => groups
      | first :: rest, [] => [(first, [rest])]
      | first :: rest, (last, rests) :: groups =>
          if first = last then (last, rest :: rests) :: groups
          else (first, [rest]) :: (last, rests) :: groups)
    []).reverse.map fun (first, rests) => (first, rests.reverse)

/-- The sequences that may follow after up to a number of byte ranges, each with
the number of ranges that they begin with. Those that follow where nothing is
left are left out. -/
def followers : Nat → List ByteRanges → List (List ByteRanges × Nat)
  | 0, _ => []
  | count + 1, sequences =>
      if sequences.all List.isEmpty then []
      else
        let groups := byFirst sequences
        (sequences, groups.length) ::
          groups.flatMap fun (_, rests) => followers count rests

/-- The number of different starts of sequences that are in ascending order. -/
def startCount (sequences : List ByteRanges) : Nat :=
  (sequences.foldl
    (fun (count, before) sequence =>
      let common :=
        ((before.zip sequence).takeWhile fun (left, right) => left == right).length
      (count + (sequence.length - common), sequence))
    (0, [])).1

end ByteRanges
end Pattern
end CalculatorTrials
