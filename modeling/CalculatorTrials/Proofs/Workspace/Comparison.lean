import CalculatorTrials.CommandLine.Command
import CalculatorTrials.Proofs.Transcript.Printed
import CalculatorTrials.Proofs.Workspace.Transcripts

/-!
# Comparing files

Two files are compared as the lines that they hold, however these are ended in
each of them. The journal tells of every farewell that is not in place and then
of the verdict, and the command prints a line for each diagnostic.
-/

namespace CalculatorTrials

/-! ## Commands that run -/

namespace Command

/-- A command that runs to its response gives it, and its entries are added to
the journal. -/
theorem respond_eq_of_runs
    {command : Command}
    {randomSeed : UInt64}
    {response : Response}
    {entries : Journal}
    {before behind : Files}
    (runs : Activity.Runs (command.perform randomSeed) before (.ok response)
      entries behind)
    (journal : Array Entry) :
    (command.respond randomSeed : StateM Workspace Response)
        ⟨before, journal⟩ =
      (response, ⟨behind, journal ++ entries.toArray⟩) := by
  unfold respond
  simp only [bind, StateT.bind, ExceptT.run, runs journal]
  rfl

end Command

/-- The exit code is zero just if all went well. -/
theorem Response.exitCode_eq_zero_iff (response : Response) :
    response.exitCode = 0 ↔ response.success = true := by
  unfold exitCode
  cases response.success <;> simp

/-! ## Comparisons of files -/

namespace Activity

/-- The verdict is a warning unless nothing was found wrong. -/
theorem severity_verdict
    (expectFile resultsFile : String)
    (report : Report) :
    (verdict expectFile resultsFile report).severity =
      if report.diagnostics = [] then .info else .warn := by
  unfold verdict Report.isClean
  cases report.diagnostics <;> rfl

/-- The entries of a comparison of two files. -/
def comparisonJournal
    (expectFile resultsFile : String)
    (report : Report) : Journal :=
  report.journal ++ [verdict expectFile resultsFile report]

/-- There is an entry for each wrong farewell, and the verdict is behind them. -/
theorem severities_comparisonJournal
    (expectFile resultsFile : String)
    (report : Report) :
    (comparisonJournal expectFile resultsFile report).map Entry.severity =
      List.replicate (report.diagnostics.countP Diagnostic.isAboutFarewell)
          .debug ++
        [if report.diagnostics = [] then .info else .warn] := by
  rw [comparisonJournal, List.map_append, report.severities_journal,
    List.map_singleton, severity_verdict]

/-- The command that compares two files prints the report. -/
theorem runs_check
    {files : Files}
    {expectFile resultsFile expected actual : String}
    (readsExpected : files.readText expectFile = .ok expected)
    (readsActual : files.readText resultsFile = .ok actual)
    (randomSeed : UInt64) :
    let report :=
      Checker.compare {} (Text.lines expected) (Text.lines actual)
    Runs ((Command.check expectFile resultsFile).perform randomSeed) files
      (.ok ⟨report.isClean, report.text⟩)
      (comparisonJournal expectFile resultsFile report) files := by
  intro report
  rw [← List.append_nil (comparisonJournal expectFile resultsFile report)]
  exact (runs_checkFiles {} readsExpected readsActual).bind (runs_pure _ files)

end Activity

/-- Two files are compared as lists of lines, whatever the bytes are in which they
hold them. -/
structure ComparesLines
    (files : Files)
    (expectFile resultsFile : String)
    (expected actual : List String) : Prop where
  /-- By any rules the result is the report on the lines, and the files stay as
  they are. -/
  reports : ∀ checker : Checker,
    let report := checker.compare expected actual
    (Activity.checkFiles checker expectFile resultsFile).runOn files =
      (.ok report, Activity.comparisonJournal expectFile resultsFile report,
        files)
  /-- An entry for each farewell that is not in place comes first, and then there
  is one more, which is a warning unless nothing was found wrong. -/
  severities : ∀ checker : Checker,
    let report := checker.compare expected actual
    (Activity.comparisonJournal expectFile resultsFile report).map
        Entry.severity =
      List.replicate (report.diagnostics.countP Diagnostic.isAboutFarewell)
          .debug ++
        [if report.diagnostics = [] then .info else .warn]
  /-- The command prints one line for each diagnostic, in order, and its exit code
  is zero just if there are none. -/
  prints : ∀ (randomSeed : UInt64) (journal : Array Entry),
    let report := Checker.compare {} expected actual
    let entries := Activity.comparisonJournal expectFile resultsFile report
    ∃ response : Response,
      ((Command.check expectFile resultsFile).respond randomSeed :
          StateM Workspace Response) ⟨files, journal⟩ =
        (response, ⟨files, journal ++ entries.toArray⟩) ∧
      response.output =
        Text.unlines (report.diagnostics.map Diagnostic.text) ∧
      Text.lines response.output = report.diagnostics.map Diagnostic.text ∧
      (response.exitCode = 0 ↔ report.diagnostics = [])

/-- If two files hold lines, each of which is ended by a line feed or by a
carriage return and a line feed, or not at all where it is the last one and not
empty, the files are compared as these lines, and the report is printed with one
line for each diagnostic. -/
theorem comparesLines_of_holds
    {files : Files}
    {expectFile resultsFile expectText resultsText : String}
    {expected actual : List String}
    (readsExpected : files.read expectFile = .ok expectText.toUTF8)
    (readsActual : files.read resultsFile = .ok resultsText.toUTF8)
    (holdsExpected : Text.Holds expectText expected)
    (holdsActual : Text.Holds resultsText actual)
    (areExpected : ∀ line ∈ expected, Text.IsLine line.toList)
    (areActual : ∀ line ∈ actual, Text.IsLine line.toList) :
    ComparesLines files expectFile resultsFile expected actual := by
  have expectedText := Files.readText_of_read readsExpected
  have actualText := Files.readText_of_read readsActual
  have expectedLines := Text.lines_of_holds holdsExpected areExpected
  have actualLines := Text.lines_of_holds holdsActual areActual
  refine
    { reports := fun checker => ?_
      severities := fun checker =>
        Activity.severities_comparisonJournal expectFile resultsFile _
      prints := fun randomSeed journal => ?_ }
  · have runs := Activity.runs_checkFiles checker expectedText actualText
    rw [expectedLines, actualLines] at runs
    exact runs.runOn_eq
  · have runs := Activity.runs_check expectedText actualText randomSeed
    rw [expectedLines, actualLines] at runs
    refine ⟨_, Command.respond_eq_of_runs runs journal, Report.text_eq _,
      Checker.lines_text_compare areExpected areActual, ?_⟩
    rw [Response.exitCode_eq_zero_iff]
    exact List.isEmpty_iff

/-- A file whose lines are ended in both ways, the empty last one as well, and one
whose last line is not ended and holds a carriage return. -/
theorem comparesLines_of_mixed_ends :
    let files := (Files.empty.put ["a"] (.file "1\r\n2\n\r\n".toUTF8)).put ["b"]
      (.file "1\n2\r\n\r3".toUTF8)
    ComparesLines files "a" "b" ["1", "2", ""] ["1", "2", "\r3"] := by
  intro files
  have first : Files.empty.Targets "a" ["a"] := by
    apply (Files.target?_eq_ok_some_iff ..).mp
    cbv
  have second : Files.empty.Targets "b" ["b"] := by
    apply (Files.target?_eq_ok_some_iff ..).mp
    cbv
  have secondBehind := second.put first.takes "1\r\n2\n\r\n".toUTF8
  have firstBehind := first.put first.takes "1\r\n2\n\r\n".toUTF8
  have readsFirst : files.read "a" = .ok "1\r\n2\n\r\n".toUTF8 :=
    (firstBehind.read_put_other secondBehind.takes (by decide) _).trans
      (first.read_put _)
  have readsSecond : files.read "b" = .ok "1\n2\r\n\r3".toUTF8 :=
    secondBehind.read_put _
  exact comparesLines_of_holds readsFirst readsSecond
    (.returnFeed "1" (.feed "2" (.returnFeed "" .nothing)))
    (.feed "1" (.returnFeed "2" (.unended "\r3" (by decide))))
    (by decide) (by decide)

end CalculatorTrials
