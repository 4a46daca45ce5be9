import CalculatorTrials.Binary64.Magnitude
import Mathlib

/-!
# Bits of binary64 numbers

A number is put together from a sign, an exponent and a mantissa. Taking it
apart and putting it together again changes nothing but the bits of what is not
a number, so a number is told by its sign bit and its magnitude.
-/

namespace CalculatorTrials
namespace Binary64

open Float.Model (Format UnpackedFloat)
open Float.Model.UnpackedFloat (isNaNBits packComponents packedNaN
  unpackExponent unpackMantissa unpackSign)

/-! ## Components -/

/-- The word of a sign, an exponent and a mantissa. -/
theorem toNat_packComponents
    (sign : UnpackedFloat.Sign)
    (exponent : BitVec 11)
    (mantissa : BitVec 52) :
    (packComponents Format.binary64 sign exponent mantissa).toNat =
      sign.toBitVec.toNat * signBit + exponent.toNat * leadingBit +
        mantissa.toNat := by
  rw [packComponents, BitVec.toNat_append, BitVec.toNat_append,
    ← Nat.shiftLeft_add_eq_or_of_lt mantissa.isLt,
    ← Nat.shiftLeft_add_eq_or_of_lt exponent.isLt]
  simp only [Nat.shiftLeft_eq, signBit, leadingBit]
  omega

/-- Every word has a sign, an exponent and a mantissa. -/
theorem exists_components (word : BitVec Format.binary64.numBits) :
    ∃ sign exponent mantissa,
      word = packComponents Format.binary64 sign exponent mantissa := by
  refine ⟨.ofBitVec (unpackSign word), unpackExponent word,
    unpackMantissa word, ?_⟩
  exact
    (UnpackedFloat.packComponents_unpackSign_unpackExponent_unpackMantissa
      word).symm

/-! ## Taking apart and putting together -/

/-- The number that a word stands for. -/
def numberOf (word : BitVec 64) : UnpackedFloat :=
  UnpackedFloat.unpack Format.binary64 word

/-- The word of a number. -/
def wordOf (number : UnpackedFloat) : BitVec 64 :=
  UnpackedFloat.pack Format.binary64 number

/-- The number of an exponent and a mantissa has the sign that it is given. -/
theorem neg_numberOf
    (sign : UnpackedFloat.Sign)
    (exponent : BitVec 11)
    (mantissa : BitVec 52) :
    (numberOf (packComponents Format.binary64 sign exponent mantissa)).neg =
      numberOf (packComponents Format.binary64 (-sign) exponent mantissa) := by
  simp only [numberOf, UnpackedFloat.unpack,
    UnpackedFloat.unpackMantissa_packComponents,
    UnpackedFloat.unpackExponent_packComponents,
    UnpackedFloat.unpackSign_packComponents,
    UnpackedFloat.Sign.ofBitVec_toBitVec]
  split
  · split <;> rfl
  · split
    · split <;> rfl
    · rfl

/-- The word of a number is the word it was taken from, if that word is one of a
number. -/
theorem wordOf_numberOf
    (sign : UnpackedFloat.Sign)
    (exponent : BitVec 11)
    (mantissa : BitVec 52)
    (isNumber : exponent = -1#11 → mantissa = 0#52) :
    wordOf (numberOf (packComponents Format.binary64 sign exponent mantissa)) =
      packComponents Format.binary64 sign exponent mantissa := by
  have notNaN :
      ¬isNaNBits (packComponents Format.binary64 sign exponent mantissa) := by
    rw [isNaNBits, UnpackedFloat.unpackExponent_packComponents,
      UnpackedFloat.unpackMantissa_packComponents, decide_eq_true_eq]
    intro ⟨infinite, nonzero⟩
    exact nonzero (isNumber infinite)
  apply (UnpackedFloat.pack_unpack _).trans
  exact if_neg notNaN

/-! ## Signs and magnitudes -/

/-- The word of a number's bits. -/
def bits (number : Float) : BitVec 64 :=
  number.toBits.toBitVec

theorem bits_ofBits (word : UInt64) :
    bits (Float.ofBits word) = wordOf (numberOf word.toBitVec) := rfl

theorem bits_neg (number : Float) :
    bits (-number) = wordOf (numberOf (bits number)).neg := rfl

theorem toNat_bits (number : Float) :
    (bits number).toNat = number.toBits.toNat := rfl

/-- Numbers with the same bits are the same. -/
theorem eq_of_bits_eq
    {first second : Float}
    (same : bits first = bits second) :
    first = second :=
  Float.toBits_inj.mp (UInt64.toBitVec_inj.mp same)

/-- The components of a number. Its magnitude is that of infinity at most,
unless it has the word of what is not a number. -/
theorem exists_bits (number : Float) :
    ∃ sign exponent mantissa,
      bits number = packComponents Format.binary64 sign exponent mantissa ∧
        magnitude number = exponent.toNat * leadingBit + mantissa.toNat ∧
        (isNegative number = true ↔ sign = .negative) ∧
        (exponent = -1#11 → mantissa ≠ 0#52 →
          bits number = packedNaN Format.binary64) := by
  obtain ⟨sign, exponent, mantissa, components⟩ :=
    exists_components (bits number)
  have word := congrArg BitVec.toNat components
  rw [toNat_packComponents, toNat_bits] at word
  have exponentLt : exponent.toNat < 2 ^ 11 := exponent.isLt
  have mantissaLt : mantissa.toNat < 2 ^ 52 := mantissa.isLt
  refine ⟨sign, exponent, mantissa, components, ?_, ?_, ?_⟩
  · rw [magnitude, word]
    simp only [signBit, leadingBit]
    omega
  · cases sign with
    | negative =>
        simp [isNegative, word, UnpackedFloat.Sign.toBitVec, signBit,
          Nat.add_assoc]
    | positive =>
        have notNegative : ¬signBit ≤ number.toBits.toNat := by
          rw [word]
          simp only [UnpackedFloat.Sign.toBitVec, BitVec.toNat_ofNat, signBit,
            leadingBit]
          omega
        simp [isNegative, notNegative]
  · intro infinite nonzero
    apply number.toModel.valid.eq_packedNaN
    · change @unpackExponent Format.binary64 (bits number) = _
      rw [components, UnpackedFloat.unpackExponent_packComponents]
      exact infinite
    · change @unpackMantissa Format.binary64 (bits number) ≠ _
      rw [components, UnpackedFloat.unpackMantissa_packComponents]
      exact nonzero

/-- A magnitude up to that of infinity has the exponent and the mantissa of a
number. -/
theorem isNumber_of_le
    {exponent : BitVec 11}
    {mantissa : BitVec 52}
    (le : exponent.toNat * leadingBit + mantissa.toNat ≤ infinity) :
    exponent = -1#11 → mantissa = 0#52 := by
  rintro rfl
  apply BitVec.eq_of_toNat_eq
  have exponentEq : (-1#11 : BitVec 11).toNat = 2047 := rfl
  rw [exponentEq] at le
  simp only [infinity] at le
  simp only [BitVec.toNat_ofNat]
  omega

/-- A nonnegative number has the bits of its magnitude. -/
theorem toNat_toBits_ofMagnitude
    {size : Nat}
    (le : size ≤ infinity) :
    (ofMagnitude size).toBits.toNat = size := by
  have sizeLt : size < 2 ^ 64 := by
    simp only [infinity, leadingBit] at le
    omega
  obtain ⟨sign, exponent, mantissa, components⟩ :=
    exists_components (BitVec.ofNat 64 size)
  have word := congrArg BitVec.toNat components
  rw [toNat_packComponents, BitVec.toNat_ofNat, Nat.mod_eq_of_lt sizeLt] at word
  have isNumber : exponent = -1#11 → mantissa = 0#52 := by
    apply isNumber_of_le
    omega
  rw [← toNat_bits, ofMagnitude, bits_ofBits]
  change (wordOf (numberOf (BitVec.ofNat 64 size))).toNat = size
  rw [components, wordOf_numberOf _ _ _ isNumber, toNat_packComponents, ← word]

/-- A number is told by its sign and its magnitude. -/
theorem eq_ofMagnitude
    {number : Float}
    (le : magnitude number ≤ infinity) :
    number =
      if isNegative number then -ofMagnitude (magnitude number)
      else ofMagnitude (magnitude number) := by
  obtain ⟨sign, exponent, mantissa, components, size, negative, _⟩ :=
    exists_bits number
  have isNumber : exponent = -1#11 → mantissa = 0#52 :=
    isNumber_of_le (size ▸ le)
  have positive :
      bits (ofMagnitude (magnitude number)) =
        packComponents Format.binary64 .positive exponent mantissa := by
    apply BitVec.eq_of_toNat_eq
    rw [toNat_bits, toNat_toBits_ofMagnitude le, toNat_packComponents, size]
    exact (Nat.zero_add _).symm ▸ rfl
  apply eq_of_bits_eq
  split
  · next isNegative =>
      obtain rfl := negative.mp isNegative
      rw [components, bits_neg, positive, neg_numberOf]
      exact (wordOf_numberOf .negative _ _ isNumber).symm
  · next notNegative =>
      cases sign with
      | negative => exact absurd (negative.mpr rfl) notNegative
      | positive => rw [components, positive]

/-- Whatever is not a number has one word. -/
theorem eq_notANumber
    {number : Float}
    (above : infinity < magnitude number) :
    number = ofMagnitude (infinity + 1) := by
  obtain ⟨sign, exponent, mantissa, components, size, negative, canonical⟩ :=
    exists_bits number
  have exponentLt : exponent.toNat < 2 ^ 11 := exponent.isLt
  have mantissaLt : mantissa.toNat < 2 ^ 52 := mantissa.isLt
  rw [size] at above
  simp only [infinity, leadingBit] at above
  have infinite : exponent = -1#11 := by
    apply BitVec.eq_of_toNat_eq
    change exponent.toNat = 2047
    omega
  have nonzero : mantissa ≠ 0#52 := by
    rintro rfl
    simp only [BitVec.toNat_ofNat] at above
    omega
  apply eq_of_bits_eq
  rw [canonical infinite nonzero]
  rfl

/-- What equals zero is zero with one of the signs. -/
theorem beq_zero_iff_eq (number : Float) :
    (number == 0) = true ↔ number = 0 ∨ number = -0 := by
  constructor
  · intro equal
    obtain ⟨_, _, same | ⟨same, _⟩ | ⟨same, _⟩⟩ :=
      Float.beq_iff_ne_nan_and_eq.mp equal
    · exact .inl same
    · exact .inl same
    · exact .inr same
  · rintro (rfl | rfl) <;> rfl

/-- A number equals zero if and only if its magnitude is zero. -/
theorem beq_zero_iff (number : Float) :
    (number == 0) = true ↔ magnitude number = 0 := by
  constructor
  · rw [beq_zero_iff_eq]
    rintro (rfl | rfl) <;> rfl
  · intro zero
    rw [eq_ofMagnitude (Nat.le_trans (Nat.le_of_eq zero) (Nat.zero_le _)), zero]
    split <;> rfl

end Binary64
end CalculatorTrials
