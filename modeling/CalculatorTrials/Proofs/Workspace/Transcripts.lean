import CalculatorTrials.Proofs.Transcript.Expectation
import CalculatorTrials.Proofs.Workspace.Corpus
import CalculatorTrials.Proofs.Workspace.Replacement
import CalculatorTrials.Proofs.Workspace.Run
import CalculatorTrials.Workspace.Transcripts

/-!
# Test cases and their expected transcript

Test cases are written to a file, the transcript expected for them is written to
another one, and that file is compared with itself. All of this succeeds if the
two files can be written.
-/

namespace CalculatorTrials
namespace Activity

variable {files behind : Files}

/-- The first cases of a seed are written where a file of them can be. -/
theorem runs_writeTests
    {generator : Generator}
    {count : Nat}
    {seed : UInt64}
    {path : String}
    (rewritten : files.Rewritten path
      (Corpus.generate generator count seed).lines behind) :
    let summary := (Corpus.generate generator count seed).summary
    (writeTests generator count seed path).Runs files (.ok summary)
      [⟨.info, .corpus,
        s!"wrote {summary.cases} test cases ({summary.shapes} shapes, " ++
          s!"seed {seed}, max depth {generator.maxDepth}) to {path}"⟩]
      behind :=
  (runs_writeText ((Files.writeText_eq_ok_iff rfl).mpr rewritten)).bind
    ((runs_record _ _).bind (runs_pure _ _))

/-- The transcript expected for the tests of a file is written where it can be. -/
theorem runs_writeExpectations
    {testFile expectFile text : String}
    (reads : files.readText testFile = .ok text)
    {transcript : List String}
    (accepted : (expectations (Text.lines text)).2 = .ok transcript)
    (rewritten : files.Rewritten expectFile transcript behind) :
    let count := transcript.length - Transcript.framingLines
    (writeExpectations testFile expectFile).Runs files (.ok count)
      ((expectations (Text.lines text)).1 ++ [⟨.info, .expectation,
        s!"wrote {count} expectations for {testFile} to {expectFile}"⟩])
      behind :=
  (runs_readText reads).bind ((runs_recordAll _ _).bind
    ((runs_result accepted _).bind
      ((runs_writeText ((Files.writeText_eq_ok_iff rfl).mpr rewritten)).bind
        ((runs_record _ _).bind (runs_pure _ _)))))

/-- The transcripts of two files are compared. -/
theorem runs_checkFiles
    (checker : Checker)
    {expectFile resultsFile expected actual : String}
    (readsExpected : files.readText expectFile = .ok expected)
    (readsActual : files.readText resultsFile = .ok actual) :
    let report := checker.compare (Text.lines expected) (Text.lines actual)
    (checkFiles checker expectFile resultsFile).Runs files (.ok report)
      (report.journal ++ [verdict expectFile resultsFile report]) files :=
  (runs_readText readsExpected).bind ((runs_readText readsActual).bind
    ((runs_recordAll _ _).bind ((runs_record _ _).bind (runs_pure _ _))))

end Activity

/-! ## Test cases, expected transcript and comparison -/

/-- What is found when the first cases of a seed have been written to one file
and the transcript expected for them to another one. -/
structure FullRun
    (generator : Generator)
    (count : Nat)
    (seed : UInt64)
    (testFile expectFile : String)
    (before middle behind : Files)
    (summary : Summary)
    (tests : List String)
    (outcomes : List Outcome) : Prop where
  /-- The test cases are written. -/
  testsWritten : ∃ entries,
    (Activity.writeTests generator count seed testFile).runOn before =
      (.ok summary, entries, middle)
  /-- As many expectations are written as there are test cases. -/
  expectationsWritten : ∃ entries,
    (Activity.writeExpectations testFile expectFile).runOn middle =
      (.ok count, entries, behind)
  /-- All cases are counted. -/
  cases_eq : summary.cases = count
  /-- The shapes that come up are counted, each of them once. -/
  shapes_eq : summary.shapes =
    ((generator.cases seed 0 count).map fun derivation =>
      Observer.shape.observe derivation.events).toFinset.card
  /-- There are no more shapes than different tests. -/
  shapes_le : summary.shapes ≤ tests.toFinset.card
  /-- The tests are the texts of the cases. -/
  tests_eq : tests =
    (generator.cases seed 0 count).map fun derivation =>
      Observer.text.observe derivation.events
  /-- No test is empty or has white space in it. -/
  tests_plain : ∀ test ∈ tests, test ≠ "" ∧
    ∀ character ∈ test.toList, Text.isWhiteSpace character = false
  /-- The tests are the lines of their file. -/
  tests_read : ∃ text,
    behind.readText testFile = .ok text ∧ Text.lines text = tests
  /-- Every test has an outcome. -/
  evaluates : tests.map evaluate = outcomes.map .ok
  /-- The lines of the other file are the outcomes in their frame. -/
  transcript_read : ∃ text,
    behind.readText expectFile = .ok text ∧
      Text.lines text = Transcript.banner :: (outcomes.map Outcome.line ++
        [Transcript.prompt, Transcript.farewell]) ∧
      (Text.lines text).length = count + 3
  /-- The transcript does not differ from itself, and all results but the last
  are compared. -/
  checks : ∃ report entries,
    (Activity.check expectFile expectFile).runOn behind =
        (.ok report, entries, behind) ∧
      report.isClean = true ∧ report.compared = count - 1

/-- Where two paths lead to different places, the run goes through them. -/
theorem fullRun_of_targets
    {files : Files}
    {testFile expectFile : String}
    {testPlace expectPlace : List String}
    (testTargets : files.Targets testFile testPlace)
    (expectTargets : files.Targets expectFile expectPlace)
    (different : testPlace ≠ expectPlace)
    (generator : Generator)
    (count : Nat)
    (seed : UInt64) :
    let corpus := Corpus.generate generator count seed
    let outcomes := (generator.cases seed 0 count).map Derivation.outcome
    let middle := files.putLines testPlace corpus.lines
    let behind := middle.putLines expectPlace (Expectation.frame outcomes)
    FullRun generator count seed testFile expectFile files middle behind
      corpus.summary corpus.lines outcomes := by
  intro corpus outcomes middle behind
  have count_eq : outcomes.length = count := by
    simp [outcomes, Generator.cases]
  have evaluates : corpus.lines.map evaluate = outcomes.map .ok :=
    Corpus.map_evaluate_lines generator count seed
  have tests : Text.lines (Text.unlines corpus.lines) = corpus.lines :=
    Text.lines_unlines Corpus.isLine_of_mem_lines
  have transcript := Text.lines_unlines (Expectation.isLine_frame outcomes)
  -- The folders stay where they are, so both paths keep their places.
  have middleTest : middle.Targets testFile testPlace :=
    testTargets.put testTargets.takes _
  have middleExpect : middle.Targets expectFile expectPlace :=
    expectTargets.put testTargets.takes _
  have readsTests : middle.readText testFile = .ok (Text.unlines corpus.lines) :=
    testTargets.readText_putLines corpus.lines
  have readsTranscript : behind.readText expectFile =
      .ok (Text.unlines (Expectation.frame outcomes)) :=
    middleExpect.readText_putLines (Expectation.frame outcomes)
  have stillReadsTests : behind.readText testFile =
      .ok (Text.unlines corpus.lines) :=
    (middleTest.readText_putLines_other middleExpect.takes different _).trans
      readsTests
  refine
    { testsWritten := ⟨_,
        (Activity.runs_writeTests (.file testTargets)).runOn_eq⟩
      expectationsWritten := ?_
      cases_eq := Corpus.length_items_generate generator count seed
      shapes_eq := Corpus.shapes_eq generator count seed
      shapes_le := Corpus.shapes_le generator count seed
      tests_eq := Corpus.lines_generate generator count seed
      tests_plain := fun _ member => Corpus.plain_of_mem_lines member
      tests_read := ⟨_, stillReadsTests, tests⟩
      evaluates := evaluates
      transcript_read := ⟨_, readsTranscript, transcript, ?_⟩
      checks := ?_ }
  · have accepted : (expectations (Text.lines (Text.unlines corpus.lines))).2 =
        .ok (Expectation.frame outcomes) := by
      rw [tests]
      exact (expectations_eq_ok_iff ..).mpr ⟨outcomes, rfl, evaluates⟩
    have written := Activity.runs_writeExpectations readsTests accepted
      (.file middleExpect)
    rw [Expectation.length_frame, Transcript.framingLines, Nat.add_sub_cancel,
      count_eq] at written
    exact ⟨_, written.runOn_eq⟩
  · rw [transcript, Expectation.length_frame, count_eq]
  · have compared := Activity.runs_checkFiles {} readsTranscript readsTranscript
    rw [transcript] at compared
    refine ⟨_, _, compared.runOn_eq, ?_, ?_⟩
    · rw [Report.isClean, Checker.diagnostics_compare_self]
      rfl
    · rw [Checker.compared_compare _ rfl, Expectation.length_frame, count_eq]
      exact Nat.sub_right_comm ..

/-- Wherever two files can be written, test cases and the transcript expected for
them are, and both are read back as they are meant. -/
theorem exists_fullRun
    {files : Files}
    {testFile expectFile : String}
    (testWritable : ∀ content, ∃ after,
      files.write testFile content = .ok after)
    (expectWritable : ∀ content, ∃ after,
      files.write expectFile content = .ok after)
    (distinct : files.target? testFile ≠ files.target? expectFile)
    (generator : Generator)
    (count : Nat)
    (seed : UInt64) :
    ∃ middle behind summary tests outcomes,
      FullRun generator count seed testFile expectFile files middle behind
        summary tests outcomes := by
  obtain ⟨testPlace, testTargets⟩ :=
    (files.forall_exists_write_iff testFile).mp testWritable
  obtain ⟨expectPlace, expectTargets⟩ :=
    (files.forall_exists_write_iff expectFile).mp expectWritable
  have different : testPlace ≠ expectPlace := by
    rintro rfl
    apply distinct
    rw [(Files.target?_eq_ok_some_iff ..).mpr testTargets,
      (Files.target?_eq_ok_some_iff ..).mpr expectTargets]
  exact ⟨_, _, _, _, _, fullRun_of_targets testTargets expectTargets different
    generator count seed⟩

/-- Two cases of the default generator, written where there are no files. -/
theorem exists_fullRun_of_two_cases :
    ∃ middle behind summary tests outcomes,
      FullRun {} 2 0 "a" "b" .empty middle behind summary tests
        outcomes := by
  have tests : Files.empty.target? "a" = .ok (some ["a"]) := by
    cbv
  have transcript : Files.empty.target? "b" = .ok (some ["b"]) := by
    cbv
  apply exists_fullRun
  · rw [Files.forall_exists_write_iff]
    exact ⟨_, (Files.target?_eq_ok_some_iff ..).mp tests⟩
  · rw [Files.forall_exists_write_iff]
    exact ⟨_, (Files.target?_eq_ok_some_iff ..).mp transcript⟩
  · rw [tests, transcript]
    simp

end CalculatorTrials
