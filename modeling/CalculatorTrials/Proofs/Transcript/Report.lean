import CalculatorTrials.Proofs.Transcript.Comparison
import CalculatorTrials.Proofs.Transcript.Word

/-!
# Reports of a comparison

What a comparison reports, line by line. Transcripts of different lengths are
told apart by their lengths alone. Otherwise the frames of both are checked, and
then every line that is no part of the frame, in order. What is reported of a
line depends on the texts of that line and on the number of lines, and on
nothing else.
-/

namespace CalculatorTrials

/-! ## The frame -/

namespace Transcript

/-- A line of the frame is in place: it is what is wanted, with nothing but white
space behind it. -/
def InPlace (wanted line : String) : Prop :=
  ∃ space, line.toList = wanted.toList ++ space ∧
    ∀ character ∈ space, Text.isWhiteSpace character = true

instance (wanted line : String) : Decidable (InPlace wanted line) :=
  decidable_of_iff
    (wanted.toList <+: line.toList ∧
      ∀ character ∈ line.toList.drop wanted.toList.length,
        Text.isWhiteSpace character = true) <| by
    constructor
    · rintro ⟨⟨space, split⟩, isSpace⟩
      rw [← split, List.drop_left] at isSpace
      exact ⟨space, split.symm, isSpace⟩
    · rintro ⟨space, split, isSpace⟩
      rw [split, List.drop_left]
      exact ⟨List.prefix_append .., isSpace⟩

/-- What is to be reported of a line where the frame wants another one. -/
def lineFindings
    (side : Side)
    (number : Nat)
    (wanted line : String) : List Diagnostic :=
  if InPlace wanted line then [] else [.framing side number wanted line]

/-- What is to be reported of the frame of a transcript. -/
def frameFindings (side : Side) (lines : List String) : List Diagnostic :=
  match lines.head?, lines.getLast? with
  | some first, some last =>
      lineFindings side 1 banner first ++
        lineFindings side lines.length farewell last
  | _, _ => []

/-- What is to be reported of the frame at one line of a transcript. -/
def frameFindingsAt
    (side : Side)
    (count number : Nat)
    (line : String) : List Diagnostic :=
  (if number = 1 then lineFindings side number banner line else []) ++
    (if number = count then lineFindings side number farewell line else [])

end Transcript

/-- The line that a diagnostic is about. -/
def Diagnostic.line? : Diagnostic → Option Nat
  | lengthMismatch .. => none
  | framing _ line .. | mismatch line .. => some line

/-- What is reported of a line. -/
def Report.about (report : Report) (line : Nat) : List Diagnostic :=
  report.diagnostics.filter fun diagnostic => diagnostic.line? = some line

namespace Checker

open Transcript

/-- A line of the frame is checked without the white space at its end. -/
theorem checkFrameLine_eq
    {wanted : String}
    (ends : ∀ last, wanted.toList.getLast? = some last →
      Text.isWhiteSpace last = false)
    (side : Side)
    (number : Nat)
    (line : String) :
    checkFrameLine side number wanted line =
      lineFindings side number wanted line :=
  if_congr (Text.dropEnd_eq_iff ends) rfl rfl

/-- The banner is looked for in the first line of a transcript and the farewell
in the last one. -/
theorem checkFrame_eq (side : Side) (lines : List String) :
    checkFrame side lines = frameFindings side lines := by
  have ends
      {wanted : String}
      (exclaims : wanted.toList.getLast? = some '!') :
      ∀ last, wanted.toList.getLast? = some last →
        Text.isWhiteSpace last = false := by
    intro last isLast
    obtain rfl := Option.some.inj (exclaims.symm.trans isLast)
    rfl
  cases lines with
  | nil => rfl
  | cons first rest =>
      have bannerEnds : banner.toList.getLast? = some '!' := rfl
      have farewellEnds : farewell.toList.getLast? = some '!' := rfl
      rw [checkFrame, checkFrameLine_eq (ends bannerEnds),
        checkFrameLine_eq (ends farewellEnds), frameFindings, List.head?_cons,
        List.getLast?_cons, List.getLastD_eq_getLast?, List.length_cons]

/-! ## The results -/

instance (checker : Checker) (expected actual : String) :
    Decidable (checker.Rejects expected actual) :=
  inferInstanceAs (Decidable (_ ∧ _))

/-- What is to be reported of the results at one line of two transcripts. -/
def resultFinding?
    (checker : Checker)
    (count number : Nat)
    (expected actual : String) : Option Diagnostic :=
  if checker.leading < number ∧ number + checker.trailing ≤ count ∧
      checker.Rejects expected actual then
    some (.mismatch number expected actual)
  else none

/-- What is to be reported of the results of two transcripts. -/
def resultFindings
    (checker : Checker)
    (expected actual : List String) : List Diagnostic :=
  ((expected.zip actual).zipIdx 1).filterMap fun ((first, second), number) =>
    checker.resultFinding? expected.length number first second

/-- The check of results goes through them in order. -/
theorem checkResults_eq
    (checker : Checker)
    (number : Nat)
    (pairs : List (String × String)) :
    checker.checkResults number pairs =
      (pairs.zipIdx number).filterMap fun ((expected, actual), line) =>
        if checker.Rejects expected actual then
          some (.mismatch line expected actual)
        else none := by
  induction pairs generalizing number with
  | nil => rfl
  | cons pair pairs inductionHypothesis =>
      obtain ⟨expected, actual⟩ := pair
      rw [checkResults, List.zipIdx_cons, List.filterMap_cons,
        inductionHypothesis]
      by_cases agrees :
        expected = actual ∨ checker.sameValue expected actual = true
      · have notRejects : ¬checker.Rejects expected actual := by
          rintro ⟨otherText, otherValue⟩
          rcases agrees with sameText | sameValue
          · exact otherText sameText
          · rw [otherValue] at sameValue
            cases sameValue
        simp only [if_pos agrees, if_neg notRejects]
      · obtain ⟨otherText, otherValue⟩ := not_or.mp agrees
        have rejects : checker.Rejects expected actual :=
          ⟨otherText, Bool.eq_false_iff.mpr otherValue⟩
        simp only [if_neg agrees, if_pos rejects]

/-- Of numbered items only those count for which there is something to report. -/
theorem filterMap_zipIdx_window
    {report : α × Nat → Option β}
    {items : List α}
    {start finish : Nat}
    (ordered : start ≤ finish)
    (inside : finish ≤ items.length)
    (before : ∀ item number, number ≤ start → report (item, number) = none)
    (behind : ∀ item number, finish < number → report (item, number) = none) :
    (items.zipIdx 1).filterMap report =
      (((items.take finish).drop start).zipIdx (start + 1)).filterMap
        report := by
  have front : ((items.take start).zipIdx 1).filterMap report = [] := by
    refine List.filterMap_eq_nil_iff.mpr fun (item, number) member => ?_
    have place := List.snd_lt_add_of_mem_zipIdx member
    rw [List.length_take] at place
    exact before item number (by omega)
  have back : ((items.drop finish).zipIdx (finish + 1)).filterMap report =
      [] := by
    refine List.filterMap_eq_nil_iff.mpr fun (item, number) member => ?_
    exact behind item number (List.le_snd_of_mem_zipIdx member)
  have whole : items =
      items.take start ++ ((items.take finish).drop start ++
        items.drop finish) := by
    rw [← List.append_assoc, ← Nat.min_eq_left ordered, ← List.take_take,
      Nat.min_eq_left ordered, List.take_append_drop, List.take_append_drop]
  have frontLength : 1 + (items.take start).length = start + 1 := by
    rw [List.length_take]
    omega
  have middleLength :
      start + 1 + ((items.take finish).drop start).length = finish + 1 := by
    rw [List.length_drop, List.length_take]
    omega
  calc
    (items.zipIdx 1).filterMap report =
        ((items.take start ++ ((items.take finish).drop start ++
          items.drop finish)).zipIdx 1).filterMap report := by rw [← whole]
    _ = _ := by
        rw [List.zipIdx_append, List.zipIdx_append, frontLength, middleLength,
          List.filterMap_append, List.filterMap_append, front, back,
          List.nil_append, List.append_nil]

/-- If there is something to report of one item only, it is what is reported of
that item. -/
theorem filterMap_zipIdx_single
    {report : α × Nat → Option β}
    (items : List α)
    {index : Nat}
    (only : ∀ item number, number ≠ index + 1 → report (item, number) = none) :
    (items.zipIdx 1).filterMap report =
      (items[index]?.bind fun item => report (item, index + 1)).toList := by
  by_cases inside : index < items.length
  · rw [filterMap_zipIdx_window (Nat.le_succ index) inside
        (fun item number before => only item number (by omega))
        (fun item number behind => only item number (by omega)),
      List.take_add_one,
      List.drop_left' (List.length_take_of_le (Nat.le_of_lt inside)),
      List.getElem?_eq_getElem inside]
    rw [Option.toList_some, List.zipIdx_singleton, Option.bind_some,
      List.filterMap_cons]
    cases report (items[index], index + 1) <;> rfl
  · rw [List.getElem?_eq_none (Nat.le_of_not_lt inside)]
    refine List.filterMap_eq_nil_iff.mpr fun (item, number) member => ?_
    have place := List.snd_lt_add_of_mem_zipIdx member
    exact only item number (by omega)

/-- Of the results those are checked that are no part of the frame. -/
theorem checkResults_window
    (checker : Checker)
    {expected actual : List String}
    (sameLength : expected.length = actual.length) :
    let finish := expected.length - checker.trailing
    let start := min checker.leading finish
    checker.checkResults (start + 1)
        (((expected.zip actual).take finish).drop start) =
      checker.resultFindings expected actual := by
  intro finish start
  have ordered : start ≤ finish := Nat.min_le_right _ _
  have inside : finish ≤ (expected.zip actual).length := by
    rw [List.length_zip]
    omega
  rw [checkResults_eq, resultFindings,
    filterMap_zipIdx_window ordered inside]
  · refine List.filterMap_congr fun ((first, second), number) member => ?_
    have notBefore := List.le_snd_of_mem_zipIdx member
    have notBehind := List.snd_lt_add_of_mem_zipIdx member
    rw [List.length_drop, List.length_take] at notBehind
    have counted : checker.leading < number ∧
        number + checker.trailing ≤ expected.length := by
      omega
    simp only [resultFinding?, counted, true_and]
  · intro (first, second) number before
    exact if_neg fun counted => by omega
  · intro (first, second) number behind
    exact if_neg fun counted => by omega

/-- A comparison of transcripts of the same length reports what is wrong with
their frames, and then what is wrong with the results. -/
theorem diagnostics_compare
    (checker : Checker)
    {expected actual : List String}
    (sameLength : expected.length = actual.length) :
    (checker.compare expected actual).diagnostics =
      frameFindings .expected expected ++ frameFindings .actual actual ++
        checker.resultFindings expected actual := by
  rw [compare, if_neg (not_not_intro sameLength), checkFrame_eq, checkFrame_eq,
    ← checker.checkResults_window sameLength]

/-! ## Single lines -/

/-- A finding is about the line at which it was made. -/
theorem filter_lineFindings
    (side : Side)
    (number other : Nat)
    (wanted line : String) :
    (lineFindings side number wanted line).filter
        (fun diagnostic => diagnostic.line? = some other) =
      if other = number then lineFindings side other wanted line else [] := by
  rw [lineFindings]
  split
  · simp [lineFindings, *]
  · by_cases same : other = number
    · simp [lineFindings, Diagnostic.line?, *]
    · simp [Diagnostic.line?, same, Ne.symm same]

/-- Of the findings at one place of a transcript, those at a line are found in that
line if it is the place, and there are none otherwise. -/
theorem filter_findings_at
    (side : Side)
    (wanted : String)
    (lines : List String)
    (place index : Nat) :
    (lines[place]?.elim [] (lineFindings side (place + 1) wanted)).filter
        (fun diagnostic => diagnostic.line? = some (index + 1)) =
      lines[index]?.elim [] fun line =>
        if index + 1 = place + 1 then lineFindings side (index + 1) wanted line
        else [] := by
  by_cases same : index = place
  · subst same
    cases lines[index]? with
    | none => rfl
    | some line => rw [Option.elim_some, Option.elim_some, filter_lineFindings]
  · cases lines[place]? <;> cases lines[index]? <;>
      simp [filter_lineFindings, same]

/-- Of the findings in a frame, those at a line depend on nothing but that line
and the number of lines. -/
theorem filter_frameFindings
    (side : Side)
    (lines : List String)
    (index : Nat) :
    (frameFindings side lines).filter
        (fun diagnostic => diagnostic.line? = some (index + 1)) =
      lines[index]?.elim []
        (frameFindingsAt side lines.length (index + 1)) := by
  cases lines with
  | nil => rfl
  | cons first rest =>
      have ends : frameFindings side (first :: rest) =
          (first :: rest)[0]?.elim [] (lineFindings side (0 + 1) banner) ++
            (first :: rest)[rest.length]?.elim []
              (lineFindings side (rest.length + 1) farewell) := by
        rw [frameFindings, List.head?_cons, List.getLast?_eq_getElem?,
          List.length_cons, Nat.add_sub_cancel,
          List.getElem?_eq_getElem (Nat.lt_succ_self _)]
        rfl
      rw [ends, List.filter_append, filter_findings_at, filter_findings_at]
      cases (first :: rest)[index]? with
      | none => rfl
      | some line => rfl

/-- Of the findings in results, the one at a line depends on nothing but that line
of both transcripts and the number of lines. -/
theorem filter_resultFindings
    (checker : Checker)
    (expected actual : List String)
    (index : Nat) :
    (checker.resultFindings expected actual).filter
        (fun diagnostic => diagnostic.line? = some (index + 1)) =
      ((expected.zip actual)[index]?.bind fun (first, second) =>
        checker.resultFinding? expected.length (index + 1) first
          second).toList := by
  have elsewhere {number : Nat} (other : number ≠ index + 1)
      (first second : String) :
      (checker.resultFinding? expected.length number first second).filter
        (fun diagnostic => diagnostic.line? = some (index + 1)) = none := by
    rw [resultFinding?]
    split
    · simp [Diagnostic.line?, other]
    · rfl
  have here (first second : String) :
      (checker.resultFinding? expected.length (index + 1) first second).filter
          (fun diagnostic => diagnostic.line? = some (index + 1)) =
        checker.resultFinding? expected.length (index + 1) first second := by
    rw [resultFinding?]
    split
    · simp [Diagnostic.line?]
    · rfl
  rw [resultFindings, List.filter_filterMap,
    filterMap_zipIdx_single _ fun (first, second) number other =>
      elsewhere other first second]
  simp only [here]

/-- What is reported of a line is found in that line of both transcripts, and
depends on nothing else but the number of lines. -/
theorem about_compare
    (checker : Checker)
    {expected actual : List String}
    (sameLength : expected.length = actual.length)
    (index : Nat) :
    (checker.compare expected actual).about (index + 1) =
      expected[index]?.elim []
          (frameFindingsAt .expected expected.length (index + 1)) ++
        actual[index]?.elim []
          (frameFindingsAt .actual expected.length (index + 1)) ++
        ((expected.zip actual)[index]?.bind fun (first, second) =>
          checker.resultFinding? expected.length (index + 1) first
            second).toList := by
  rw [Report.about, diagnostics_compare checker sameLength,
    List.filter_append, List.filter_append, filter_frameFindings,
    filter_frameFindings, filter_resultFindings, sameLength]

/-! ## Whole reports -/

/-- What the report of a comparison is. -/
structure IsReport
    (checker : Checker)
    (expected actual : List String)
    (report : Report) : Prop where
  /-- Transcripts of different lengths are told apart by their lengths. -/
  lengths : expected.length ≠ actual.length →
    report = ⟨0, [.lengthMismatch expected.length actual.length]⟩
  /-- All lines but those of the frame are compared. -/
  compared : expected.length = actual.length →
    (report.compared : Int) =
      max 0 ((expected.length : Int) - checker.leading - checker.trailing)
  /-- The frames come first and the results behind them, line by line. -/
  diagnostics : expected.length = actual.length →
    report.diagnostics =
      frameFindings .expected expected ++ frameFindings .actual actual ++
        checker.resultFindings expected actual
  /-- Other lines make no difference to what is reported of a line. -/
  independent : ∀ otherExpected otherActual index,
    otherExpected.length = expected.length →
    otherActual.length = actual.length →
    otherExpected[index]? = expected[index]? →
    otherActual[index]? = actual[index]? →
    (checker.compare otherExpected otherActual).about (index + 1) =
      report.about (index + 1)

/-- Of transcripts of different lengths nothing is reported but the lengths. -/
theorem compare_of_length_ne
    (checker : Checker)
    {expected actual : List String}
    (otherLength : expected.length ≠ actual.length) :
    checker.compare expected actual =
      ⟨0, [.lengthMismatch expected.length actual.length]⟩ := by
  rw [compare, if_pos otherLength]

/-- A line is reported as it is in any other transcripts of the same lengths. -/
theorem about_compare_eq
    (checker : Checker)
    {expected actual otherExpected otherActual : List String}
    {index : Nat}
    (expectedLength : otherExpected.length = expected.length)
    (actualLength : otherActual.length = actual.length)
    (expectedLine : otherExpected[index]? = expected[index]?)
    (actualLine : otherActual[index]? = actual[index]?) :
    (checker.compare otherExpected otherActual).about (index + 1) =
      (checker.compare expected actual).about (index + 1) := by
  by_cases sameLength : expected.length = actual.length
  · have sameOther : otherExpected.length = otherActual.length := by
      omega
    have samePair :
        (otherExpected.zip otherActual)[index]? =
          (expected.zip actual)[index]? := by
      simp only [List.zip, List.getElem?_zipWith, expectedLine, actualLine]
    rw [about_compare _ sameLength, about_compare _ sameOther, expectedLength,
      expectedLine, actualLine, samePair]
  · rw [compare_of_length_ne _ sameLength, compare_of_length_ne, expectedLength,
      actualLength]
    omega

/-- A comparison that counts with words goes through for all numbers of lines
that are left out, and its report tells everything that it has to, and nothing
else. -/
theorem compareInWords?_isReport
    (tolerance : Float)
    (leading trailing : UInt64)
    {expected actual : List String}
    (fits : expected.length < UInt64.size) :
    let checker : Checker := ⟨tolerance, leading.toNat, trailing.toNat⟩
    compareInWords? tolerance leading trailing expected actual =
        some (checker.compare expected actual) ∧
      checker.IsReport expected actual (checker.compare expected actual) := by
  intro checker
  refine ⟨compareInWords?_eq tolerance leading trailing fits, ?_, ?_, ?_, ?_⟩
  · exact checker.compare_of_length_ne
  · intro sameLength
    rw [checker.compared_compare sameLength]
    omega
  · exact checker.diagnostics_compare
  · intro otherExpected otherActual index expectedLength actualLength
      expectedLine actualLine
    exact checker.about_compare_eq expectedLength actualLength expectedLine
      actualLine

/-- The report on a frame without its banner, with no line left out at the start
and all but two at the end. -/
theorem compareInWords?_isReport_of_three_lines :
    let expected := ["> = 1", "> = 2", Transcript.farewell]
    let actual := ["> = 3", "> = 4", Transcript.farewell]
    let checker : Checker := ⟨1e-5, 0, 2⟩
    expected.length < UInt64.size ∧
      compareInWords? 1e-5 0 2 expected actual =
        some (checker.compare expected actual) ∧
      checker.IsReport expected actual (checker.compare expected actual) := by
  have fits : ["> = 1", "> = 2", Transcript.farewell].length < UInt64.size := by
    decide
  exact ⟨fits, compareInWords?_isReport 1e-5 0 2 fits⟩

end Checker
end CalculatorTrials
