import CalculatorTrials.Transcript.Comparison

/-!
# Comparing with machine words

A comparison that counts lines with words of 64 bits could stop half-way: at a
sum that no word holds, or at a part of a transcript that reaches behind its
end. Here every sum and every part is checked. No check ever fails, and the
report is the one of a comparison that counts with natural numbers.
-/

namespace CalculatorTrials

/-! ## Words -/

namespace Word

/-- The sum of two words, unless no word holds it. -/
def add? (first second : UInt64) : Option UInt64 :=
  if first.toNat + second.toNat < UInt64.size then some (first + second)
  else none

/-- The difference of two words, or zero if the second one is greater. -/
def sub (first second : UInt64) : UInt64 :=
  if second ≤ first then first - second else 0

/-- The items between two places of a list, unless the places are out of order
or behind its end. -/
def between? (start finish : UInt64) (items : List α) : Option (List α) :=
  if start ≤ finish ∧ finish.toNat ≤ items.length then
    some ((items.take finish.toNat).drop start.toNat)
  else none

/-- A sum that is small enough is there. -/
theorem exists_add?
    {first second : UInt64}
    (fits : first.toNat + second.toNat < UInt64.size) :
    ∃ sum, add? first second = some sum ∧
      sum.toNat = first.toNat + second.toNat := by
  refine ⟨first + second, if_pos fits, ?_⟩
  rw [UInt64.toNat_add]
  exact Nat.mod_eq_of_lt fits

/-- Differences of words are those of natural numbers. -/
@[simp] theorem toNat_sub (first second : UInt64) :
    (sub first second).toNat = first.toNat - second.toNat := by
  rw [sub]
  split
  · next le => exact UInt64.toNat_sub_of_le _ _ le
  · next notLe =>
      rw [UInt64.le_iff_toNat_le] at notLe
      exact (Nat.sub_eq_zero_of_le (Nat.le_of_not_le notLe)).symm

/-- The lesser one of two words is that of their numbers. -/
theorem toNat_least (first second : UInt64) :
    (min first second).toNat = min first.toNat second.toNat := by
  change (if first ≤ second then first else second).toNat = _
  split
  · next le => exact (Nat.min_eq_left (UInt64.le_iff_toNat_le.mp le)).symm
  · next notLe =>
      rw [UInt64.le_iff_toNat_le] at notLe
      exact (Nat.min_eq_right (Nat.le_of_not_le notLe)).symm

/-- Places in order and inside a list have items between them. -/
theorem between?_eq
    {start finish : UInt64}
    {items : List α}
    (ordered : start.toNat ≤ finish.toNat)
    (inside : finish.toNat ≤ items.length) :
    between? start finish items =
      some ((items.take finish.toNat).drop start.toNat) :=
  if_pos ⟨UInt64.le_iff_toNat_le.mpr ordered, inside⟩

end Word

/-! ## Comparisons -/

namespace Checker

/-- What is wrong with pairs of results, and how many pairs have been compared.
The pairs stand behind `start` lines and `index` other pairs, and so many pairs
were compared before. -/
def checkResults?
    (checker : Checker)
    (start index compared : UInt64) :
    List (String × String) → Option (UInt64 × List Diagnostic)
  | [] => some (compared, [])
  | (expected, actual) :: rest => do
      let next ← Word.add? index 1
      let compared ← Word.add? compared 1
      if expected = actual ∨ checker.sameValue expected actual then
        checker.checkResults? start next compared rest
      else
        let line ← Word.add? (← Word.add? start index) 1
        let (total, others) ← checker.checkResults? start next compared rest
        some (total, .mismatch line.toNat expected actual :: others)

/-- Check the results between two places of transcripts. -/
def checkBetween?
    (checker : Checker)
    (start finish : UInt64)
    (expected actual : List String) : Option (UInt64 × List Diagnostic) := do
  let expectedResults ← Word.between? start finish expected
  let actualResults ← Word.between? start finish actual
  checker.checkResults? start 0 0 (expectedResults.zip actualResults)

/-- Compare a transcript with the expected one, with words for the numbers of
lines. -/
def compareInWords?
    (tolerance : Float)
    (leading trailing : UInt64)
    (expected actual : List String) : Option Report :=
  if expected.length ≠ actual.length then
    some ⟨0, [.lengthMismatch expected.length actual.length]⟩
  else
    let checker : Checker := ⟨tolerance, leading.toNat, trailing.toNat⟩
    let finish := Word.sub (UInt64.ofNat expected.length) trailing
    let start := min leading finish
    (checker.checkBetween? start finish expected actual).map
      fun (compared, mismatches) =>
        ⟨compared.toNat,
          checkFrame .expected expected ++ checkFrame .actual actual ++
            mismatches⟩

/-- No number of a line and no count of pairs is too great, if the last one is
not. -/
theorem exists_checkResults?
    (checker : Checker)
    {start index compared : UInt64}
    {pairs : List (String × String)}
    (linesFit : start.toNat + index.toNat + pairs.length < UInt64.size)
    (countsFit : compared.toNat + pairs.length < UInt64.size) :
    ∃ total,
      checker.checkResults? start index compared pairs =
          some (total,
            checker.checkResults (start.toNat + index.toNat + 1) pairs) ∧
        total.toNat = compared.toNat + pairs.length := by
  induction pairs generalizing index compared with
  | nil => exact ⟨compared, rfl, rfl⟩
  | cons pair pairs inductionHypothesis =>
      obtain ⟨expected, actual⟩ := pair
      rw [List.length_cons] at linesFit countsFit
      have one : (1 : UInt64).toNat = 1 := rfl
      obtain ⟨next, nextEq, nextValue⟩ :
          ∃ next, Word.add? index 1 = some next ∧
            next.toNat = index.toNat + 1 :=
        Word.exists_add? (by omega)
      obtain ⟨count, countEq, countValue⟩ :
          ∃ count, Word.add? compared 1 = some count ∧
            count.toNat = compared.toNat + 1 :=
        Word.exists_add? (by omega)
      obtain ⟨total, others, totalValue⟩ :=
        @inductionHypothesis next count (by omega) (by omega)
      have laterLine :
          start.toNat + next.toNat + 1 = start.toNat + index.toNat + 1 + 1 := by
        omega
      refine ⟨total, ?_, by rw [List.length_cons]; omega⟩
      rw [checkResults?, checkResults, nextEq, countEq]
      simp only [Option.bind_eq_bind, Option.bind_some, others, laterLine]
      split
      · rfl
      · obtain ⟨place, placeEq, placeValue⟩ :=
          @Word.exists_add? start index (by omega)
        obtain ⟨line, lineEq, lineValue⟩ :=
          @Word.exists_add? place 1 (by omega)
        have number : line.toNat = start.toNat + index.toNat + 1 := by
          omega
        simp only [placeEq, lineEq, Option.bind_some, number]

/-- Pairs between two places are the pairs of what is between them. -/
theorem zip_between
    (start finish : Nat)
    (expected actual : List String) :
    ((expected.take finish).drop start).zip ((actual.take finish).drop start) =
      ((expected.zip actual).take finish).drop start := by
  simp only [List.zip, List.take_zipWith, List.drop_zipWith]

/-- All results between two places in order and inside are checked. -/
theorem exists_checkBetween?
    (checker : Checker)
    {start finish : UInt64}
    {expected actual : List String}
    (sameLength : expected.length = actual.length)
    (fits : expected.length < UInt64.size)
    (ordered : start.toNat ≤ finish.toNat)
    (inside : finish.toNat ≤ expected.length) :
    let pairs := ((expected.zip actual).take finish.toNat).drop start.toNat
    ∃ total,
      checker.checkBetween? start finish expected actual =
          some (total, checker.checkResults (start.toNat + 1) pairs) ∧
        total.toNat = pairs.length := by
  intro pairs
  have length : pairs.length = finish.toNat - start.toNat := by
    simp only [pairs, List.length_drop, List.length_take, List.length_zip]
    omega
  have zero : (0 : UInt64).toNat = 0 := rfl
  obtain ⟨total, checked, totalValue⟩ :=
    @exists_checkResults? checker start 0 0 pairs (by omega) (by omega)
  refine ⟨total, ?_, by omega⟩
  rw [checkBetween?, Word.between?_eq ordered inside,
    Word.between?_eq ordered (sameLength ▸ inside)]
  simp only [Option.bind_eq_bind, Option.bind_some, zip_between]
  exact checked

/-- A comparison with words goes through if words can count the lines, and it
reports what the comparison with natural numbers does. -/
theorem compareInWords?_eq
    (tolerance : Float)
    (leading trailing : UInt64)
    {expected actual : List String}
    (fits : expected.length < UInt64.size) :
    compareInWords? tolerance leading trailing expected actual =
      some (compare ⟨tolerance, leading.toNat, trailing.toNat⟩ expected
        actual) := by
  rw [compareInWords?, compare]
  split
  · rfl
  · next sameLength =>
      let finish := Word.sub (UInt64.ofNat expected.length) trailing
      let start := min leading finish
      have finishValue : finish.toNat = expected.length - trailing.toNat := by
        rw [Word.toNat_sub, UInt64.toNat_ofNat_of_lt' fits]
      have startValue : start.toNat =
          min leading.toNat (expected.length - trailing.toNat) := by
        rw [Word.toNat_least, finishValue]
      have ordered : start.toNat ≤ finish.toNat := by
        rw [startValue, finishValue]
        exact Nat.min_le_right _ _
      have inside : finish.toNat ≤ expected.length := by
        rw [finishValue]
        exact Nat.sub_le _ _
      obtain ⟨total, checked, totalValue⟩ :=
        exists_checkBetween? ⟨tolerance, leading.toNat, trailing.toNat⟩
          (Decidable.not_not.mp sameLength) fits ordered inside
      rw [startValue, finishValue] at checked totalValue
      simp only [start, finish] at checked
      simp only [checked, Option.map_some, totalValue]

end Checker
end CalculatorTrials
