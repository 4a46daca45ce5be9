import CalculatorTrials.CommandLine.Command
import CalculatorTrials.Proofs.Workspace.Transcripts

/-!
# Files behind activities

An activity that writes one file either fails and leaves all files as they were,
or replaces the file of its path and no other one. What the file held before then
makes no difference, unless it was the input. Writing test cases and then the
transcript expected for them goes in two such stages, and comparing transcripts
changes no file.
-/

namespace CalculatorTrials
namespace Activity

/-! ## Test cases -/

/-- The activity has the result if the file of the path can be replaced by the
lines, and replaces it then. Otherwise it fails and changes nothing. -/
structure WritesLines
    (activity : Activity (StateM Workspace) α)
    (path : String)
    (lines : List String)
    (value : α)
    (entries : Journal) : Prop where
  succeeds : ∀ {before behind : Files}, before.Rewritten path lines behind →
    activity.Runs before (.ok value) entries behind
  fails : ∀ {before : Files}, (¬∃ behind, before.Rewritten path lines behind) →
    ∃ failure, activity.Runs before (.error failure) [] before

/-- Where the activity succeeds, the file has been replaced. -/
theorem WritesLines.rewritten
    {activity : Activity (StateM Workspace) α}
    {path : String}
    {lines : List String}
    {value result : α}
    {entries written : Journal}
    {before behind : Files}
    (writes : activity.WritesLines path lines value entries)
    (run : activity.runOn before = (.ok result, written, behind)) :
    result = value ∧ before.Rewritten path lines behind := by
  by_cases possible : ∃ middle, before.Rewritten path lines middle
  · obtain ⟨middle, rewritten⟩ := possible
    cases run.symm.trans (writes.succeeds rewritten).runOn_eq
    exact ⟨rfl, rewritten⟩
  · obtain ⟨failure, runs⟩ := writes.fails possible
    cases run.symm.trans runs.runOn_eq

/-- The first cases of a seed are written. -/
theorem writesLines_writeTests
    (generator : Generator)
    (count : Nat)
    (seed : UInt64)
    (path : String) :
    let corpus := Corpus.generate generator count seed
    ∃ entries, (writeTests generator count seed path).WritesLines path
      corpus.lines corpus.summary entries := by
  refine ⟨_, fun rewritten => runs_writeTests rewritten, ?_⟩
  intro before refused
  cases written : before.writeText path
      (.ofLines count
        ((Thunk.mk fun _ => Corpus.generate generator count seed).map
          Corpus.lines) (by simp [Thunk.map, Thunk.get, Corpus.lines])) with
  | ok behind =>
      exact absurd ⟨behind, (Files.writeText_eq_ok_iff rfl).mp written⟩ refused
  | error fault => exact ⟨_, (runs_writeText_error written).bind_error _⟩

/-- An entry for the journal does not change what is written. -/
theorem WritesLines.thenRecord
    {activity : Activity (StateM Workspace) α}
    {path : String}
    {lines : List String}
    {value : α}
    {entries : Journal}
    (writes : activity.WritesLines path lines value entries)
    (entry : α → Entry) :
    (activity >>= fun value => record (entry value)).WritesLines path lines ()
      (entries ++ [entry value]) where
  succeeds rewritten := (writes.succeeds rewritten).bind (runs_record _ _)
  fails refused :=
    let ⟨failure, runs⟩ := writes.fails refused
    ⟨failure, runs.bind_error _⟩

/-- The test cases of a command are written. -/
theorem writesLines_write
    (generation : Generation)
    (randomSeed : UInt64)
    (testFile : String) :
    ∃ entries, (generation.write randomSeed testFile).WritesLines testFile
      (Corpus.generate { maxDepth := generation.maxDepth } generation.count
        (generation.seed.getD randomSeed)).lines () entries :=
  let ⟨_, writes⟩ := writesLines_writeTests { maxDepth := generation.maxDepth }
    generation.count (generation.seed.getD randomSeed) testFile
  ⟨_, writes.thenRecord _⟩

/-! ## Expected transcripts -/

/-- The tests can be read and are expressions, and the transcript expected for
them can be written, with the files behind. -/
def Expects
    (before : Files)
    (testFile expectFile : String)
    (behind : Files) : Prop :=
  ∃ text transcript,
    before.readText testFile = .ok text ∧
      (expectations (Text.lines text)).2 = .ok transcript ∧
      before.Rewritten expectFile transcript behind

/-- If the tests cannot be read, or one of them is no expression, or the
transcript cannot be written, nothing is changed. -/
theorem exists_runs_writeExpectations_error
    {before : Files}
    {testFile expectFile : String}
    (refused : ¬∃ behind, Expects before testFile expectFile behind) :
    ∃ failure entries,
      (writeExpectations testFile expectFile).Runs before (.error failure)
        entries before := by
  cases reads : before.readText testFile with
  | error fault => exact ⟨_, _, (runs_readText_error reads).bind_error _⟩
  | ok text =>
      cases accepted : (expectations (Text.lines text)).2 with
      | error failure =>
          exact ⟨failure, _, (runs_readText reads).bind
            ((runs_recordAll _ _).bind ((runs_result accepted _).bind_error _))⟩
      | ok transcript =>
          cases written : before.writeText expectFile
              (.ofLines transcript.length (Thunk.pure transcript) rfl) with
          | ok behind =>
              have rewritten := (Files.writeText_eq_ok_iff rfl).mp written
              exact absurd ⟨behind, text, transcript, reads, accepted,
                rewritten⟩ refused
          | error fault =>
              exact ⟨_, _, (runs_readText reads).bind
                ((runs_recordAll _ _).bind ((runs_result accepted _).bind
                  ((runs_writeText_error written).bind_error _)))⟩

/-! ## Atomic activities -/

/-- The activity does its work as a whole or not at all: it succeeds exactly where
its work can be done, with the files as they are behind it, and if it fails all
files are as they were. What the files at some places held before makes no
difference where it succeeds. -/
structure IsAtomic
    (activity : Activity (StateM Workspace) α)
    (files : Files)
    (work : Files → Prop)
    (ignores : List String → Prop) : Prop where
  succeeds_iff : ∀ behind,
    (∃ value entries, activity.runOn files = (.ok value, entries, behind)) ↔
      work behind
  fails : ∀ failure entries behind,
    activity.runOn files = (.error failure, entries, behind) → behind = files
  again : ∀ behind, work behind → ∀ place, ignores place → ∀ content,
    activity.runOn (files.put place (.file content)) = activity.runOn files

/-- An activity is atomic if it has a run for each way in which its work can be
done, and one that changes nothing if there is none. -/
theorem isAtomic_of_runs
    {activity : Activity (StateM Workspace) α}
    {files : Files}
    {work : Files → Prop}
    {ignores : List String → Prop}
    (succeeds : ∀ behind, work behind →
      ∃ value entries, activity.Runs files (.ok value) entries behind ∧
        ∀ place, ignores place → ∀ content,
          activity.Runs (files.put place (.file content)) (.ok value) entries
            behind)
    (fails : (¬∃ behind, work behind) →
      ∃ failure entries, activity.Runs files (.error failure) entries files) :
    activity.IsAtomic files work ignores := by
  have ends : (∃ behind value entries, work behind ∧
      activity.runOn files = (.ok value, entries, behind)) ∨
      ∃ failure entries,
        activity.runOn files = (.error failure, entries, files) := by
    by_cases possible : ∃ behind, work behind
    · obtain ⟨behind, works⟩ := possible
      obtain ⟨value, entries, runs, _⟩ := succeeds behind works
      exact .inl ⟨behind, value, entries, works, runs.runOn_eq⟩
    · obtain ⟨failure, entries, runs⟩ := fails possible
      exact .inr ⟨failure, entries, runs.runOn_eq⟩
  refine ⟨fun behind => ⟨?_, fun works => ?_⟩, ?_, ?_⟩
  · rintro ⟨value, entries, run⟩
    rcases ends with ⟨_, _, _, works, ran⟩ | ⟨_, _, ran⟩
    · cases run.symm.trans ran
      exact works
    · cases run.symm.trans ran
  · obtain ⟨value, entries, runs, _⟩ := succeeds behind works
    exact ⟨value, entries, runs.runOn_eq⟩
  · intro failure entries behind run
    rcases ends with ⟨_, _, _, _, ran⟩ | ⟨_, _, ran⟩
    · cases run.symm.trans ran
    · cases run.symm.trans ran
      rfl
  · intro behind works place ignored content
    obtain ⟨_, _, runs, sameRuns⟩ := succeeds behind works
    rw [runs.runOn_eq, (sameRuns place ignored content).runOn_eq]

/-- Writing lines is atomic, and ignores what the file held before. -/
theorem WritesLines.isAtomic
    {activity : Activity (StateM Workspace) α}
    {path : String}
    {lines : List String}
    {value : α}
    {entries : Journal}
    (writes : activity.WritesLines path lines value entries)
    (files : Files) :
    activity.IsAtomic files (files.Rewritten path lines)
      (files.Targets path) := by
  refine isAtomic_of_runs (fun behind rewritten => ?_) fun refused => ?_
  · refine ⟨value, entries, writes.succeeds rewritten, ?_⟩
    intro place targets content
    exact writes.succeeds (rewritten.put_before targets content)
  · obtain ⟨failure, runs⟩ := writes.fails refused
    exact ⟨failure, [], runs⟩

/-- The tests make the transcript, so nothing else that the file of the transcript
held makes a difference. -/
theorem Expects.exists_runs
    {files behind : Files}
    {testFile expectFile : String}
    (expects : Expects files testFile expectFile behind) :
    ∃ count entries,
      (writeExpectations testFile expectFile).Runs files (.ok count) entries
          behind ∧
        ∀ place, files.Targets expectFile place ∧ ¬files.Leads testFile place →
          ∀ content, (writeExpectations testFile expectFile).Runs
            (files.put place (.file content)) (.ok count) entries behind := by
  obtain ⟨text, transcript, reads, accepted, rewritten⟩ := expects
  refine ⟨_, _, runs_writeExpectations reads accepted rewritten, ?_⟩
  rintro place ⟨targets, elsewhere⟩ content
  exact runs_writeExpectations
    (Files.readText_put_of_not_leads reads targets.takes elsewhere content)
    accepted (rewritten.put_before targets content)

/-- Writing an expected transcript is atomic. -/
theorem isAtomic_writeExpectations
    (files : Files)
    (testFile expectFile : String) :
    (writeExpectations testFile expectFile).IsAtomic files
      (Expects files testFile expectFile)
      (fun place =>
        files.Targets expectFile place ∧ ¬files.Leads testFile place) :=
  isAtomic_of_runs (fun _ expects => expects.exists_runs)
    exists_runs_writeExpectations_error

/-! ## Two stages -/

/-- Test cases are written by a first activity, and then the transcript expected
for them. -/
def thenExpect
    (first : Activity (StateM Workspace) α)
    (testFile expectFile : String)
    (finish : α → β) : Activity (StateM Workspace) β := do
  let value ← first
  let _ ← writeExpectations testFile expectFile
  return finish value

/-- The activity writes test cases as its first activity does, and then the
transcript expected for them. If it fails, it does so in the first stage and all
files are as they were, or in the second one and they are as the first one leaves
them, the test cases complete. What the files held before makes no difference
where it succeeds, unless the tests were read from there. -/
structure IsStaged
    (activity : Activity (StateM Workspace) α)
    (first : Activity (StateM Workspace) β)
    (files : Files)
    (testFile expectFile : String)
    (tests : List String) : Prop where
  succeeds_iff : ∀ behind,
    (∃ value entries, activity.runOn files = (.ok value, entries, behind)) ↔
      ∃ middle, files.Rewritten testFile tests middle ∧
        Expects middle testFile expectFile behind
  fails : ∀ failure entries behind,
    activity.runOn files = (.error failure, entries, behind) →
      (behind = files ∧ ∃ failure entries,
        first.runOn files = (.error failure, entries, files)) ∨
      (files.Rewritten testFile tests behind ∧ behind.Holds testFile tests ∧
        ∃ value entries, first.runOn files = (.ok value, entries, behind))
  again : ∀ middle behind, files.Rewritten testFile tests middle →
    Expects middle testFile expectFile behind →
      ∀ place,
        files.Targets testFile place ∨
            files.Targets expectFile place ∧ ¬files.Leads testFile place →
          ∀ content, activity.runOn (files.put place (.file content)) =
            activity.runOn files

section

variable {first : Activity (StateM Workspace) α} {testFile : String}
  {tests : List String} {value : α} {entries : Journal}
  (writes : first.WritesLines testFile tests value entries)

include writes

/-- Both stages succeed, whatever the files held that are not the input. -/
theorem WritesLines.exists_runs_thenExpect
    {files middle behind : Files}
    {expectFile : String}
    (rewritten : files.Rewritten testFile tests middle)
    (expects : Expects middle testFile expectFile behind)
    (finish : α → β) :
    ∃ entries,
      (thenExpect first testFile expectFile finish).Runs files
          (.ok (finish value)) entries behind ∧
        ∀ place,
          files.Targets testFile place ∨
              files.Targets expectFile place ∧ ¬files.Leads testFile place →
            ∀ content, (thenExpect first testFile expectFile finish).Runs
              (files.put place (.file content)) (.ok (finish value)) entries
              behind := by
  obtain ⟨count, others, runs, sameRuns⟩ := expects.exists_runs
  refine ⟨_, (writes.succeeds rewritten).bind (runs.bind (runs_pure _ _)), ?_⟩
  rintro place (targets | ⟨targets, elsewhere⟩) content
  · have again := rewritten.put_before targets content
    exact (writes.succeeds again).bind (runs.bind (runs_pure _ _))
  · -- The other file keeps its content until the transcript replaces it.
    have again := rewritten.put_elsewhere targets.takes elsewhere content
    have same := rewritten.sameFolders
    have runsAgain := sameRuns place
      ⟨(same.targets_iff expectFile place).mp targets,
        fun leads => elsewhere ((same.leads_iff testFile place).mpr leads)⟩
      content
    exact (writes.succeeds again).bind (runsAgain.bind (runs_pure _ _))

/-- The first stage fails, or the second one does, or both can succeed. -/
theorem WritesLines.thenExpect_ends
    (files : Files)
    (expectFile : String)
    (finish : α → β) :
    (∃ failure, first.Runs files (.error failure) [] files ∧
        (thenExpect first testFile expectFile finish).Runs files
          (.error failure) [] files) ∨
      ∃ middle, files.Rewritten testFile tests middle ∧
        ((∃ failure others,
            (thenExpect first testFile expectFile finish).Runs files
              (.error failure) others middle) ∨
          ∃ behind, Expects middle testFile expectFile behind) := by
  by_cases writable : ∃ middle, files.Rewritten testFile tests middle
  · obtain ⟨middle, rewritten⟩ := writable
    refine .inr ⟨middle, rewritten, ?_⟩
    by_cases expected : ∃ behind, Expects middle testFile expectFile behind
    · exact .inr expected
    · obtain ⟨failure, others, runs⟩ :=
        exists_runs_writeExpectations_error expected
      exact .inl ⟨failure, _,
        (writes.succeeds rewritten).bind (runs.bind_error _)⟩
  · obtain ⟨failure, runs⟩ := writes.fails writable
    exact .inl ⟨failure, runs, runs.bind_error _⟩

/-- Two stages of which the first one writes the tests. -/
theorem WritesLines.isStaged
    (files : Files)
    (expectFile : String)
    (finish : α → β) :
    (thenExpect first testFile expectFile finish).IsStaged first files testFile
      expectFile tests := by
  have ends := writes.thenExpect_ends files expectFile finish
  refine ⟨fun behind => ⟨?_, ?_⟩, ?_, ?_⟩
  · rintro ⟨_, _, run⟩
    rcases ends with ⟨_, _, runs⟩ |
      ⟨middle, rewritten, ⟨_, _, runs⟩ | ⟨other, expects⟩⟩
    · cases run.symm.trans runs.runOn_eq
    · cases run.symm.trans runs.runOn_eq
    · obtain ⟨_, runs, _⟩ :=
        writes.exists_runs_thenExpect rewritten expects finish
      cases run.symm.trans runs.runOn_eq
      exact ⟨middle, rewritten, expects⟩
  · rintro ⟨middle, rewritten, expects⟩
    obtain ⟨_, runs, _⟩ :=
      writes.exists_runs_thenExpect rewritten expects finish
    exact ⟨_, _, runs.runOn_eq⟩
  · intro failure others behind run
    rcases ends with ⟨_, firstRuns, runs⟩ |
      ⟨middle, rewritten, ⟨_, _, runs⟩ | ⟨other, expects⟩⟩
    · cases run.symm.trans runs.runOn_eq
      exact .inl ⟨rfl, _, _, firstRuns.runOn_eq⟩
    · cases run.symm.trans runs.runOn_eq
      exact .inr ⟨rewritten, rewritten.holds, _, _,
        (writes.succeeds rewritten).runOn_eq⟩
    · obtain ⟨_, runs, _⟩ :=
        writes.exists_runs_thenExpect rewritten expects finish
      cases run.symm.trans runs.runOn_eq
  · intro middle behind rewritten expects place ignored content
    obtain ⟨_, runs, sameRuns⟩ :=
      writes.exists_runs_thenExpect rewritten expects finish
    rw [runs.runOn_eq, (sameRuns place ignored content).runOn_eq]

end

/-! ## Comparisons -/

/-- A comparison changes no file, whatever comes of it. -/
theorem files_checkFiles
    (checker : Checker)
    (expectFile resultsFile : String)
    (files : Files) :
    ((checkFiles checker expectFile resultsFile).runOn files).2.2 = files := by
  cases readsExpected : files.readText expectFile with
  | error fault =>
      have runs : (checkFiles checker expectFile resultsFile).Runs files _ _ _ :=
        (runs_readText_error readsExpected).bind_error _
      rw [runs.runOn_eq]
  | ok expected =>
      cases readsActual : files.readText resultsFile with
      | error fault =>
          have runs :
              (checkFiles checker expectFile resultsFile).Runs files _ _ _ :=
            (runs_readText readsExpected).bind
              ((runs_readText_error readsActual).bind_error _)
          rw [runs.runOn_eq]
      | ok actual =>
          rw [(runs_checkFiles checker readsExpected readsActual).runOn_eq]

end Activity

/-- From any files and with any paths, the same ones too: writing test cases and
writing an expected transcript are atomic and change no file but their own, a
comparison changes none, and both ways to write test cases with their transcript
change no file but the one of the test cases if they fail, which are then
complete unless nothing was written at all. -/
theorem activities_preserve_files (files : Files) :
    (∀ generator count seed path,
      (Activity.writeTests generator count seed path).IsAtomic files
        (files.Rewritten path (Corpus.generate generator count seed).lines)
        (files.Targets path)) ∧
    (∀ testFile expectFile,
      (Activity.writeExpectations testFile expectFile).IsAtomic files
        (Activity.Expects files testFile expectFile)
        (fun place =>
          files.Targets expectFile place ∧ ¬files.Leads testFile place)) ∧
    (∀ checker expectFile resultsFile,
      ((Activity.checkFiles checker expectFile resultsFile).runOn
        files).2.2 = files) ∧
    (∀ expectFile resultsFile,
      ((Activity.check expectFile resultsFile).runOn files).2.2 = files) ∧
    (∀ testFile expectFile,
      (Activity.generateRequiredFiles testFile expectFile).IsStaged
        (Activity.generateTests defaultCount testFile) files testFile expectFile
        (Corpus.generate {} defaultCount defaultSeed).lines) ∧
    ∀ (generation : Generation) randomSeed testFile expectFile,
      ((Command.both generation testFile expectFile).perform
          randomSeed).IsStaged
        (generation.write randomSeed testFile) files testFile expectFile
        (Corpus.generate { maxDepth := generation.maxDepth } generation.count
          (generation.seed.getD randomSeed)).lines := by
  refine ⟨?_, Activity.isAtomic_writeExpectations files, ?_, ?_, ?_, ?_⟩
  · intro generator count seed path
    obtain ⟨_, writes⟩ :=
      Activity.writesLines_writeTests generator count seed path
    exact writes.isAtomic files
  · intro checker expectFile resultsFile
    exact Activity.files_checkFiles checker expectFile resultsFile files
  · intro expectFile resultsFile
    exact Activity.files_checkFiles {} expectFile resultsFile files
  · intro testFile expectFile
    obtain ⟨_, writes⟩ :=
      Activity.writesLines_writeTests {} defaultCount defaultSeed testFile
    exact writes.isStaged files expectFile id
  · intro generation randomSeed testFile expectFile
    obtain ⟨_, writes⟩ :=
      Activity.writesLines_write generation randomSeed testFile
    exact writes.isStaged files expectFile fun _ => (⟨true, ""⟩ : Response)

end CalculatorTrials
