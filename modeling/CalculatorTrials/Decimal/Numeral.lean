import CalculatorTrials.Decimal.Basic

/-!
# Unsigned numerals

A numeral is written with digits, at most one point with a digit on at least
one side, and an optional exponent. It is scanned one character at a time, and
each state of the scan is what has been read so far.
-/

namespace CalculatorTrials
namespace Numeral

/-- A decimal digit of the basic Latin block, as a number. -/
def digit? (character : Char) : Option Nat :=
  if character.isDigit then some (character.toNat - '0'.toNat) else none

/-- Progress through a numeral. Digits of both sides of the point are collected
in one number, and `places` counts those to the right. -/
inductive Scan where
  /-- One or more digits, such as `12`. -/
  | whole (digits : Nat)
  /-- A point that no digit precedes. -/
  | point
  /-- Digits and a point, such as `12.`, `.5` and `12.5`. -/
  | fraction (digits places : Nat)
  /-- The letter of an exponent, such as `12e`. -/
  | marker (digits places : Nat)
  /-- The sign of an exponent, such as `12e-`. -/
  | signed (digits places : Nat) (negative : Bool)
  /-- One or more digits of an exponent, such as `12e-3`. -/
  | exponent (digits places : Nat) (negative : Bool) (power : Nat)
  deriving DecidableEq, Repr

namespace Scan

/-- The scan of a numeral's first character. -/
def start? (character : Char) : Option Scan :=
  if character = '.' then some .point
  else (digit? character).map .whole

/-- Read one more character of a numeral. -/
def step? (scan : Scan) (character : Char) : Option Scan :=
  match scan, digit? character with
  | .whole digits, some digit => some (.whole (10 * digits + digit))
  | .point, some digit => some (.fraction digit 1)
  | .fraction digits places, some digit =>
      some (.fraction (10 * digits + digit) (places + 1))
  | .marker digits places, some digit =>
      some (.exponent digits places false digit)
  | .signed digits places negative, some digit =>
      some (.exponent digits places negative digit)
  | .exponent digits places negative power, some digit =>
      some (.exponent digits places negative (10 * power + digit))
  | .whole digits, none =>
      if character = '.' then some (.fraction digits 0)
      else if character = 'e' ∨ character = 'E' then some (.marker digits 0)
      else none
  | .fraction digits places, none =>
      if character = 'e' ∨ character = 'E' then some (.marker digits places)
      else none
  | .marker digits places, none =>
      if character = '+' then some (.signed digits places false)
      else if character = '-' then some (.signed digits places true)
      else none
  | .point, none | .signed .., none | .exponent .., none => none

/-- The number of a complete numeral. -/
def decimal? : Scan → Option Decimal
  | .whole digits => some ⟨digits, 0⟩
  | .fraction digits places => some ⟨digits, -places⟩
  | .exponent digits places false power => some ⟨digits, power - places⟩
  | .exponent digits places true power => some ⟨digits, -power - places⟩
  | .point | .marker .. | .signed .. => none

end Scan

/-- The number of a text that is exactly one numeral. -/
def read? : List Char → Option Decimal
  | [] => none
  | first :: rest => do
      let scan ← rest.foldlM Scan.step? (← Scan.start? first)
      scan.decimal?

end Numeral
end CalculatorTrials
