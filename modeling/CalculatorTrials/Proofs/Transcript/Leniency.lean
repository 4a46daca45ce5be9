import CalculatorTrials.Proofs.Binary64.Order
import CalculatorTrials.Proofs.Transcript.Report
import CalculatorTrials.Proofs.Transcript.Tolerance
import Mathlib.Data.String.Basic

/-!
# Greater and smaller tolerances

A greater tolerance lets pass all that a smaller one lets pass. What it takes out
of a report are pairs of lines that both carry numbers, and the rest of the report
stays as it is. A line without a number never agrees with another line, whatever
the tolerance.
-/

namespace CalculatorTrials

/-! ## Lines without a number -/

namespace Transcript

/-- A line carries no number: it ends in front of the place of a number, or a
character lies across that place, or what stands there is no number. -/
inductive WithoutNumber (line : String) : Prop
  | short (few : line.utf8ByteSize < valueOffset)
  | across {before behind : List Char} {character : Char}
      (split : line.toList = before ++ character :: behind)
      (starts : String.utf8Len before < valueOffset)
      (ends : valueOffset < String.utf8Len before + character.utf8Size)
  | other {before behind : List Char}
      (split : line.toList = before ++ behind)
      (offset : String.utf8Len before = valueOffset)
      (noNumber : Binary64.parse? (Text.trim behind) = none)

/-- A character is dropped as a whole or not at all. -/
theorem dropBytes?_cons
    {count : Nat}
    (positive : 0 < count)
    (character : Char)
    (text : List Char) :
    dropBytes? count (character :: text) =
      if character.utf8Size ≤ count then
        dropBytes? (count - character.utf8Size) text
      else none := by
  obtain ⟨others, rfl⟩ := Nat.exists_eq_succ_of_ne_zero (Nat.ne_of_gt positive)
  rw [dropBytes?]

/-- A text at the start goes with its bytes, and others are dropped behind it. -/
theorem dropBytes?_append
    (front rest : List Char)
    (count : Nat) :
    dropBytes? (String.utf8Len front + count) (front ++ rest) =
      dropBytes? count rest := by
  induction front with
  | nil => rw [String.utf8Len_nil, Nat.zero_add, List.nil_append]
  | cons character front inductionHypothesis =>
      have positive := character.utf8Size_pos
      have left : String.utf8Len front + character.utf8Size + count -
          character.utf8Size = String.utf8Len front + count := by
        omega
      rw [String.utf8Len_cons, List.cons_append, dropBytes?_cons (by omega),
        if_pos (by omega), left, inductionHypothesis]

/-- A text ends in front of a place, or is parted there, or has a character that
lies across the place. -/
theorem exists_parts (count : Nat) (text : List Char) :
    String.utf8Len text < count ∨
      (∃ front rest, text = front ++ rest ∧ String.utf8Len front = count) ∨
      ∃ before character behind, text = before ++ character :: behind ∧
        String.utf8Len before < count ∧
        count < String.utf8Len before + character.utf8Size := by
  induction text generalizing count with
  | nil =>
      rcases Nat.eq_zero_or_pos count with rfl | positive
      · exact .inr (.inl ⟨[], [], rfl, rfl⟩)
      · exact .inl positive
  | cons first text inductionHypothesis =>
      rcases Nat.eq_zero_or_pos count with rfl | positive
      · exact .inr (.inl ⟨[], first :: text, rfl, rfl⟩)
      rcases Nat.lt_or_ge count first.utf8Size with inside | fits
      · refine .inr (.inr ⟨[], first, text, rfl, positive, ?_⟩)
        rwa [String.utf8Len_nil, Nat.zero_add]
      · obtain ⟨others, rfl⟩ := Nat.exists_eq_add_of_le' fits
        rcases inductionHypothesis others with short | ⟨front, rest, rfl, rfl⟩ |
          ⟨before, character, behind, rfl, starts, ends⟩
        · exact .inl (Nat.add_lt_add_right short _)
        · exact .inr (.inl ⟨first :: front, rest, rfl, rfl⟩)
        · refine .inr (.inr ⟨first :: before, character, behind, rfl,
            Nat.add_lt_add_right starts _, ?_⟩)
          rw [String.utf8Len_cons]
          omega

/-- The text behind a start of a line is dropped from as far as bytes are missing
in front of the place of a number, and then read. -/
theorem value?_of_split
    {line : String}
    {front rest : List Char}
    (split : line.toList = front ++ rest)
    (missing : Nat)
    (offset : String.utf8Len front + missing = valueOffset) :
    value? line =
      ((dropBytes? missing rest).map Text.trim).bind Binary64.parse? := by
  rw [value?, valueText?, split, ← offset, dropBytes?_append]

/-- A line carries no number exactly if it ends in front of the place of a number,
or a character lies across that place, or what stands there is no number. -/
theorem value?_eq_none_iff (line : String) :
    value? line = none ↔ WithoutNumber line := by
  have bytes : line.utf8ByteSize = String.utf8Len line.toList := by
    rw [← String.utf8ByteSize_ofList, String.ofList_toList]
  constructor
  · intro noNumber
    rcases exists_parts valueOffset line.toList with few |
      ⟨before, behind, split, offset⟩ |
      ⟨before, character, behind, split, starts, ends⟩
    · exact .short (bytes ▸ few)
    · refine .other split offset ?_
      rw [value?_of_split split 0 offset, dropBytes?] at noNumber
      exact noNumber
    · exact .across split starts ends
  · rintro (few | ⟨split, starts, ends⟩ | ⟨split, offset, noNumber⟩)
    · rw [bytes] at few
      obtain ⟨missing, offset⟩ := Nat.exists_eq_add_of_lt few
      rw [value?_of_split (List.append_nil _).symm (missing + 1) offset.symm,
        dropBytes?]
      rfl
    · obtain ⟨missing, offset⟩ := Nat.exists_eq_add_of_lt starts
      rw [value?_of_split split (missing + 1) offset.symm,
        dropBytes?_cons (Nat.succ_pos missing), if_neg (by omega)]
      rfl
    · rw [value?_of_split split 0 offset, dropBytes?]
      exact noNumber

end Transcript

/-! ## Numbers within a greater tolerance -/

namespace Checker

variable {checker : Checker} {tolerance : Float}

/-- Numbers that agree also agree within a greater tolerance. -/
theorem accepts_of_le
    (le : checker.tolerance ≤ tolerance)
    {expected actual : Float}
    (accepts : checker.accepts expected actual = true) :
    ({ checker with tolerance } : Checker).accepts expected actual = true := by
  rw [accepts_iff] at accepts ⊢
  refine accepts.imp_right fun within beyond => within ?_
  exact Binary64.lt_of_le_of_lt le beyond

/-- Lines whose numbers agree also agree within a greater tolerance. -/
theorem sameValue_of_le
    (le : checker.tolerance ≤ tolerance)
    {expected actual : String}
    (same : checker.sameValue expected actual = true) :
    ({ checker with tolerance } : Checker).sameValue expected actual = true := by
  rw [sameValue_iff] at same ⊢
  obtain ⟨left, right, isLeft, isRight, accepts⟩ := same
  exact ⟨left, right, isLeft, isRight, accepts_of_le le accepts⟩

/-- Lines that are told apart are told apart within a smaller tolerance too. -/
theorem rejects_of_le
    (le : checker.tolerance ≤ tolerance)
    {expected actual : String}
    (rejects : ({ checker with tolerance } : Checker).Rejects expected actual) :
    checker.Rejects expected actual := by
  obtain ⟨different, apart⟩ := rejects
  refine ⟨different, Bool.eq_false_iff.mpr fun same => ?_⟩
  rw [sameValue_of_le le same] at apart
  cases apart

/-- A line without a number never agrees with another line. -/
theorem sameValue_of_withoutNumber
    (checker : Checker)
    {expected actual : String}
    (without : Transcript.WithoutNumber expected ∨
      Transcript.WithoutNumber actual) :
    checker.sameValue expected actual = false := by
  rw [← Transcript.value?_eq_none_iff, ← Transcript.value?_eq_none_iff]
    at without
  rw [← Bool.not_eq_true, sameValue_iff]
  rintro ⟨left, right, isLeft, isRight, _⟩
  rcases without with noNumber | noNumber
  · rw [noNumber] at isLeft
    cases isLeft
  · rw [noNumber] at isRight
    cases isRight

/-! ## Reports within a greater tolerance -/

/-- Whether a diagnostic is one by other rules too: only of two results it depends
on the rules. -/
def upholds (checker : Checker) : Diagnostic → Bool
  | .mismatch _ expected actual => !checker.sameValue expected actual
  | .lengthMismatch .. | .framing .. => true

/-- A frame is looked at without any tolerance. -/
theorem upholds_of_mem_frameFindings
    (checker : Checker)
    {side : Side}
    {lines : List String} :
    ∀ diagnostic ∈ Transcript.frameFindings side lines,
      checker.upholds diagnostic = true := by
  intro diagnostic member
  rw [← checkFrame_eq] at member
  obtain ⟨_, _, _, rfl⟩ := exists_of_mem_checkFrame member
  rfl

/-- Of the results at a line, those within a greater tolerance are let pass as
well. -/
theorem resultFinding?_of_le
    (le : checker.tolerance ≤ tolerance)
    (count number : Nat)
    (expected actual : String) :
    let lenient : Checker := { checker with tolerance }
    lenient.resultFinding? count number expected actual =
      (checker.resultFinding? count number expected actual).filter
        lenient.upholds := by
  intro lenient
  by_cases reported : checker.leading < number ∧
      number + checker.trailing ≤ count ∧ checker.Rejects expected actual
  · rw [resultFinding?, resultFinding?, if_pos reported, Option.filter_some]
    obtain ⟨behind, inside, different, _⟩ := reported
    refine if_congr ?_ rfl rfl
    simp [lenient, upholds, Rejects, behind, inside, different]
  · rw [resultFinding?, resultFinding?, if_neg reported, Option.filter_none]
    apply if_neg
    rintro ⟨behind, inside, rejects⟩
    exact reported ⟨behind, inside, rejects_of_le le rejects⟩

/-- With a greater tolerance a report is what is upheld of it. -/
theorem diagnostics_compare_of_le
    (le : checker.tolerance ≤ tolerance)
    (expected actual : List String) :
    let lenient : Checker := { checker with tolerance }
    (lenient.compare expected actual).diagnostics =
      (checker.compare expected actual).diagnostics.filter lenient.upholds := by
  intro lenient
  by_cases sameLength : expected.length = actual.length
  · rw [diagnostics_compare _ sameLength, diagnostics_compare _ sameLength,
      List.filter_append, List.filter_append,
      List.filter_eq_self.mpr lenient.upholds_of_mem_frameFindings,
      List.filter_eq_self.mpr lenient.upholds_of_mem_frameFindings,
      resultFindings, resultFindings, List.filter_filterMap]
    simp only [resultFinding?_of_le le, lenient]
  · rw [compare_of_length_ne _ sameLength, compare_of_length_ne _ sameLength]
    rfl

/-- The tolerance makes no difference to which lines are compared. -/
theorem compared_compare_withTolerance
    (checker : Checker)
    (tolerance : Float)
    (expected actual : List String) :
    (({ checker with tolerance } : Checker).compare expected actual).compared =
      (checker.compare expected actual).compared := by
  by_cases sameLength : expected.length = actual.length
  · rw [compared_compare _ sameLength, compared_compare _ sameLength]
  · rw [compare_of_length_ne _ sameLength, compare_of_length_ne _ sameLength]

/-- What is not upheld is about two results that both carry numbers. -/
theorem exists_numbers_of_not_upholds
    {checker : Checker}
    {diagnostic : Diagnostic}
    (falls : checker.upholds diagnostic = false) :
    ∃ line expected actual left right,
      diagnostic = .mismatch line expected actual ∧
        Transcript.value? expected = some left ∧
        Transcript.value? actual = some right := by
  cases diagnostic with
  | lengthMismatch => cases falls
  | framing => cases falls
  | mismatch line expected actual =>
      have same : checker.sameValue expected actual = true := by
        simpa only [upholds, Bool.not_eq_false'] using falls
      obtain ⟨left, right, isLeft, isRight, _⟩ :=
        (checker.sameValue_iff expected actual).mp same
      exact ⟨line, expected, actual, left, right, rfl, isLeft, isRight⟩

end Checker

/-- Within a greater tolerance as many lines are compared, the diagnostics are some
of those within the smaller one, in the same order, and all that are missing are
about two lines that both carry numbers. Whatever the tolerance is, even if it is
no number, a pair of different lines that is compared is reported if one of them
carries no number. The line of a division by zero carries none. -/
theorem greater_tolerance_forgives_numbers_alone :
    (∀ (checker : Checker) (tolerance : Float),
      checker.tolerance ≤ tolerance →
        ∀ expected actual : List String,
          let report := checker.compare expected actual
          let other :=
            ({ checker with tolerance } : Checker).compare expected actual
          other.compared = report.compared ∧
            other.diagnostics.Sublist report.diagnostics ∧
            ∀ diagnostic,
              other.diagnostics.count diagnostic <
                  report.diagnostics.count diagnostic →
                ∃ line expectedLine actualLine left right,
                  diagnostic = .mismatch line expectedLine actualLine ∧
                    Transcript.value? expectedLine = some left ∧
                    Transcript.value? actualLine = some right) ∧
    (∀ (checker : Checker) (expected actual : List String) (index : Nat)
        (expectedLine actualLine : String),
      expected.length = actual.length →
      checker.leading ≤ index →
      index < expected.length - checker.trailing →
      expected[index]? = some expectedLine →
      actual[index]? = some actualLine →
      expectedLine ≠ actualLine →
      Transcript.WithoutNumber expectedLine ∨
          Transcript.WithoutNumber actualLine →
        .mismatch (index + 1) expectedLine actualLine ∈
          (checker.compare expected actual).diagnostics) ∧
    Transcript.WithoutNumber Transcript.divisionByZero := by
  refine ⟨?_, ?_, ?_⟩
  · intro checker tolerance le expected actual report other
    have filtered : other.diagnostics = report.diagnostics.filter _ :=
      Checker.diagnostics_compare_of_le le expected actual
    refine ⟨?_, ?_, ?_⟩
    · exact checker.compared_compare_withTolerance tolerance expected actual
    · rw [filtered]
      exact List.filter_sublist
    · intro diagnostic fewer
      apply Checker.exists_numbers_of_not_upholds
      rw [← Bool.not_eq_true]
      intro upholds
      rw [filtered, List.count_filter upholds] at fewer
      exact Nat.lt_irrefl _ fewer
  · intro checker expected actual index expectedLine actualLine sameLength
      behind inside isExpected isActual different without
    rw [checker.mismatch_mem_compare_iff sameLength]
    exact ⟨index, behind, inside, rfl, isExpected, isActual, different,
      checker.sameValue_of_withoutNumber without⟩
  · rw [← Transcript.value?_eq_none_iff]
    exact Transcript.value?_divisionByZero

/-- One and two are told apart within the default tolerance and agree within one,
and a division by zero is told apart from a number if the tolerance is none. -/
theorem greater_tolerance_forgives_one_and_two :
    let strict := Checker.compare {} (Transcript.around "> = 1")
      (Transcript.around "> = 2")
    let lenient := Checker.compare { tolerance := 1 }
      (Transcript.around "> = 1") (Transcript.around "> = 2")
    strict.diagnostics = [.mismatch 2 "> = 1" "> = 2"] ∧
      lenient.diagnostics = [] ∧
      lenient.diagnostics.Sublist strict.diagnostics ∧
      .mismatch 2 Transcript.divisionByZero "> = 1" ∈
        (Checker.compare { tolerance := 0 / 0 }
          (Transcript.around Transcript.divisionByZero)
          (Transcript.around "> = 1")).diagnostics := by
  intro strict lenient
  have le : ({} : Checker).tolerance ≤ 1 := by
    decide +kernel
  have different : Transcript.divisionByZero ≠ "> = 1" := by
    simp [Transcript.divisionByZero]
  obtain ⟨forgives, reports, without⟩ := greater_tolerance_forgives_numbers_alone
  obtain ⟨_, among, _⟩ := forgives {} 1 le (Transcript.around "> = 1")
    (Transcript.around "> = 2")
  have apart := reports { tolerance := 0 / 0 }
    (Transcript.around Transcript.divisionByZero) (Transcript.around "> = 1") 1
    Transcript.divisionByZero "> = 1" rfl (Nat.le_refl 1) (by decide) rfl rfl
    different (.inl without)
  refine ⟨?_, ?_, among, apart⟩
  · decide +kernel
  · decide +kernel

end CalculatorTrials
