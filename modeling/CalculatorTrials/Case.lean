import CalculatorTrials.Entropy.KeyStream
import CalculatorTrials.Generator

/-!
# Test cases

A seed names an endless list of test cases. Each is drawn from bytes of its own,
so that it depends neither on the cases before it nor on their lengths.
-/

namespace CalculatorTrials

/-- The number of bytes that a case is drawn from. -/
def bytesPerCase : Nat := 4096

/-- The seed taken when none is given. -/
def defaultSeed : UInt64 := 0x7063616c63

/-- The number of cases made when none is given. -/
def defaultCount : Nat := 10000

/-- The number of bytes that most cases do not use up. -/
def bytesOfMost : Nat := 512

namespace KeyStream

/-- A number of the bytes of a case. A block has 64 bytes. -/
def caseStart (origin : Block) (index count : Nat) : List UInt8 :=
  blocks origin (index * (bytesPerCase / 64)).toUInt64 (count / 64)

/-- The bytes of a case. -/
def caseBytes (origin : Block) (index : Nat) : List UInt8 :=
  caseStart origin index bytesPerCase

/-- The bytes that most cases do not use up are the first bytes of a case. -/
theorem caseBytes_begins (origin : Block) (index : Nat) :
    caseStart origin index bytesOfMost <+: caseBytes origin index :=
  ⟨_, (blocks_add origin _ (bytesOfMost / 64)
    (bytesPerCase / 64 - bytesOfMost / 64)).symm⟩

end KeyStream

namespace Generator

/-- The case with an index, from zero, in the list of an origin. Where it leaves
some of the first bytes, the others are not needed. -/
def caseAt
    (generator : Generator)
    (origin : KeyStream.Block)
    (index : Nat) : Derivation .expression :=
  let draw := generator.derive .expression
  let (derivation, rest) :=
    draw.run (KeyStream.caseStart origin index bytesOfMost)
  if rest.isEmpty then (draw.run (KeyStream.caseBytes origin index)).1
  else derivation

/-- A case is drawn from its bytes. -/
theorem caseAt_eq
    (generator : Generator)
    (origin : KeyStream.Block)
    (index : Nat) :
    generator.caseAt origin index =
      ((generator.derive .expression).run
        (KeyStream.caseBytes origin index)).1 := by
  simp only [caseAt]
  split
  · rfl
  next leaves =>
    obtain ⟨front, frontEq, frontRun⟩ :=
      (generator.derive .expression).reads _ (by simpa using leaves)
    obtain ⟨later, laterEq⟩ := KeyStream.caseBytes_begins origin index
    rw [← laterEq]
    conv => rhs; rw [← frontEq, List.append_assoc, frontRun]

/-- A number of cases of a seed, from an index on. -/
def cases
    (generator : Generator)
    (seed : UInt64)
    (first count : Nat) : List (Derivation .expression) :=
  let origin := KeyStream.origin seed
  (List.range' first count).map (generator.caseAt origin)

end Generator
end CalculatorTrials
