import CalculatorTrials.Proofs.Workspace.Files

/-!
# Runs of activities

What an activity does on a file state: its result, the entries that it adds to
the journal, and the files behind it. None of them depends on the journal in
front of it, so the runs of parts are put together to the run of the whole.
-/

namespace CalculatorTrials
namespace Activity

/-- From the files before, the activity has the result, adds the entries to any
journal, and leaves the files behind. -/
def Runs
    (activity : Activity (StateM Workspace) α)
    (before : Files)
    (result : Except Failure α)
    (entries : Journal)
    (behind : Files) : Prop :=
  ∀ journal, activity ⟨before, journal⟩ =
    (result, ⟨behind, journal ++ entries.toArray⟩)

/-- A run says what there is to see of an activity on a file state. -/
theorem Runs.runOn_eq
    {activity : Activity (StateM Workspace) α}
    {result : Except Failure α}
    {entries : Journal}
    {before behind : Files}
    (runs : activity.Runs before result entries behind) :
    activity.runOn before = (result, entries, behind) := by
  rw [runOn, runs #[]]
  simp

theorem runs_pure (value : α) (files : Files) :
    Runs (pure value) files (.ok value) [] files := by
  intro journal
  change (Except.ok value, (⟨files, journal⟩ : Workspace)) = _
  simp

/-- A result that is given is the result. -/
theorem runs_result
    {given result : Except Failure α}
    (same : given = result)
    (files : Files) :
    Runs (.mk (pure given)) files result [] files := by
  intro journal
  change (given, (⟨files, journal⟩ : Workspace)) = _
  simp [same]

/-- One activity behind another. -/
theorem Runs.bind
    {first : Activity (StateM Workspace) α}
    {next : α → Activity (StateM Workspace) β}
    {value : α}
    {result : Except Failure β}
    {entries others : Journal}
    {before middle behind : Files}
    (runs : first.Runs before (.ok value) entries middle)
    (nextRuns : (next value).Runs middle result others behind) :
    (first >>= next).Runs before result (entries ++ others) behind := by
  intro journal
  change ExceptT.bindCont next (first ⟨before, journal⟩).1
    (first ⟨before, journal⟩).2 = _
  rw [runs journal]
  refine (nextRuns (journal ++ entries.toArray)).trans ?_
  simp

theorem runs_record (entry : Entry) (files : Files) :
    (record entry).Runs files (.ok ()) [entry] files := by
  intro journal
  change (Except.ok (), (⟨files, journal.push entry⟩ : Workspace)) = _
  simp

theorem runs_recordAll (journal : Journal) (files : Files) :
    (recordAll journal).Runs files (.ok ()) journal files := by
  induction journal with
  | nil => exact runs_pure () files
  | cons entry journal inductionHypothesis =>
      exact (runs_record entry files).bind inductionHypothesis

/-- An activity that fails ends all that would be behind it. -/
theorem Runs.bind_error
    {first : Activity (StateM Workspace) α}
    {failure : Failure}
    {entries : Journal}
    {before behind : Files}
    (runs : first.Runs before (.error failure) entries behind)
    (next : α → Activity (StateM Workspace) β) :
    (first >>= next).Runs before (.error failure) entries behind := by
  intro journal
  change ExceptT.bindCont next (first ⟨before, journal⟩).1
    (first ⟨before, journal⟩).2 = _
  rw [runs journal]
  rfl

/-! ## Reading and writing -/

/-- An answer about the file of a path is the result, and a fault is a failure
that names the path. -/
theorem runs_answer
    {step : StateM Workspace (Except FileFault α)}
    (answer : Except FileFault α)
    {before behind : Files}
    (answers : ∀ journal, step ⟨before, journal⟩ = (answer, ⟨behind, journal⟩))
    (path : String) :
    Runs (.mk do return (← step).mapError (Failure.file path)) before
      (answer.mapError (Failure.file path)) [] behind := by
  intro journal
  change (fun answered : Except FileFault α × Workspace =>
    (answered.1.mapError (Failure.file path), answered.2))
      (step ⟨before, journal⟩) = _
  rw [answers]
  simp

/-- A file is read as it is. -/
theorem runs_readText
    {files : Files}
    {path text : String}
    (reads : files.readText path = .ok text) :
    (readText path).Runs files (.ok text) [] files :=
  runs_answer (.ok text)
    (fun journal => congrArg (·, (⟨files, journal⟩ : Workspace)) reads) path

theorem runs_readText_error
    {files : Files}
    {path : String}
    {fault : FileFault}
    (unreadable : files.readText path = .error fault) :
    (readText path).Runs files (.error (.file path fault)) [] files :=
  runs_answer (.error fault)
    (fun journal => congrArg (·, (⟨files, journal⟩ : Workspace)) unreadable) path

/-- A file is replaced where it can be. -/
theorem runs_writeText
    {files behind : Files}
    {path : String}
    {draft : Draft}
    (written : files.writeText path draft = .ok behind) :
    (writeText path draft).Runs files (.ok ()) [] behind := by
  refine runs_answer (.ok ()) (fun journal => ?_) path
  simp only [MonadWorkspace.writeText, written]

theorem runs_writeText_error
    {files : Files}
    {path : String}
    {draft : Draft}
    {fault : FileFault}
    (refused : files.writeText path draft = .error fault) :
    (writeText path draft).Runs files (.error (.file path fault)) [] files := by
  refine runs_answer (.error fault) (fun journal => ?_) path
  simp only [MonadWorkspace.writeText, refused]

end Activity
end CalculatorTrials
