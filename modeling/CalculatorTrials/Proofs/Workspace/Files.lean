import CalculatorTrials.Proofs.Text.Lines
import CalculatorTrials.Workspace.Files

/-!
# Files that are replaced

Where a path leads depends on nothing but the folders, and they stay where they
are when a file is replaced. So a file that was replaced is read back, and all
other paths lead to what they led to before.
-/

namespace CalculatorTrials
namespace Files

/-- One step after another succeeds if both of them do. -/
theorem bind_eq_ok_iff
    {first : Except FileFault α}
    {next : α → Except FileFault β}
    {result : β} :
    (first >>= next) = .ok result ↔
      ∃ value, first = .ok value ∧ next value = .ok result := by
  cases first with
  | error fault => exact iff_of_false nofun fun ⟨_, impossible, _⟩ => nomatch impossible
  | ok value =>
      constructor
      · exact fun succeeds => ⟨value, rfl, succeeds⟩
      · rintro ⟨_, ⟨⟩, succeeds⟩
        exact succeeds

/-! ## Folders -/

/-- The same places are folders. -/
def SameFolders (files other : Files) : Prop :=
  ∀ place, files.node? place = some .folder ↔ other.node? place = some .folder

/-- A file can be put at the place. -/
def Takes (files : Files) (place : List String) : Prop :=
  files.node? place ≠ some .folder

theorem Takes.isTop_eq_false
    {files : Files}
    {place : List String}
    (takes : files.Takes place) :
    isTop place = false := by
  rw [Bool.eq_false_iff]
  intro top
  exact takes (if_pos top)

/-- A file that is put at a place leaves the folders as they are. -/
theorem Takes.sameFolders_put
    {files : Files}
    {place : List String}
    (takes : files.Takes place)
    (content : ByteArray) :
    files.SameFolders (files.put place (.file content)) := by
  intro other
  by_cases same : other = place
  · rw [same, node?_put_same files _ takes.isTop_eq_false]
    exact iff_of_false takes nofun
  · rw [node?_put_other files _ same]

theorem enter_eq_ok_iff
    (files : Files)
    (here : List String)
    (name : String)
    (next : List String) :
    files.enter here name = .ok next ↔
      child here name = .ok next ∧ files.node? next = some .folder := by
  rw [enter, bind_eq_ok_iff]
  constructor
  · rintro ⟨place, leads, enters⟩
    split at enters
    next folder =>
      obtain rfl := Except.ok.inj enters
      exact ⟨leads, folder⟩
    all_goals cases enters
  · rintro ⟨leads, folder⟩
    refine ⟨next, leads, ?_⟩
    rw [folder]

namespace SameFolders

variable {files other : Files} (same : files.SameFolders other)

include same

/-- Names lead through the same folders. -/
theorem foldlM_enter_eq_ok_iff
    (names here next : List String) :
    names.foldlM files.enter here = .ok next ↔
      names.foldlM other.enter here = .ok next := by
  induction names generalizing here with
  | nil => exact Iff.rfl
  | cons name names inductionHypothesis =>
      simp only [List.foldlM_cons, bind_eq_ok_iff, enter_eq_ok_iff,
        same _, inductionHypothesis]

theorem follow_eq_ok_iff
    (names place : List String) :
    files.follow names = .ok place ↔ other.follow names = .ok place := by
  simp only [follow, bind_eq_ok_iff, same.foldlM_enter_eq_ok_iff]

end SameFolders

/-! ## Replaced files -/

/-- Names ask for a folder if they end in the empty name, unless a name of dots
is in front of it. -/
def AskForFolder (names : List String) : Prop :=
  let given := dropTrailing names
  given.length < names.length ∧
    given.getLastD "" ≠ "." ∧ given.getLastD "" ≠ ".."

/-- A file can be made where names lead, unless they ask for a folder. -/
theorem followNew_eq_ok_iff
    (files : Files)
    (names place : List String) :
    files.followNew names = .ok place ↔
      ¬AskForFolder names ∧ files.follow names = .ok place := by
  rw [followNew, AskForFolder]
  split
  next asks =>
    refine iff_of_false ?_ fun ⟨refuses, _⟩ => refuses asks
    rw [bind_eq_ok_iff]
    rintro ⟨_, _, ⟨⟩⟩
  next refuses => exact (and_iff_right refuses).symm

/-- The path leads to the place, and a file can be put there. -/
structure Targets
    (files : Files)
    (path : String)
    (place : List String) : Prop where
  notDevice : path ≠ fullDevice
  leads : ∃ given, names path = .ok given ∧ ¬AskForFolder given ∧
    files.follow given = .ok place
  takes : files.Takes place

/-- A path has a place as its target if it leads there and a file can be put
there. -/
theorem target?_eq_ok_some_iff
    (files : Files)
    (path : String)
    (place : List String) :
    files.target? path = .ok (some place) ↔ files.Targets path place := by
  rw [target?]
  split
  next device =>
    exact iff_of_false nofun fun targets => targets.notDevice device
  next notDevice =>
    simp only [bind_eq_ok_iff, followNew_eq_ok_iff]
    constructor
    · rintro ⟨given, isGiven, other, leads, isTarget⟩
      have takes : files.Takes other := by
        intro folder
        rw [folder] at isTarget
        cases isTarget
      split at isTarget
      · cases isTarget
      · obtain rfl := Option.some.inj (Except.ok.inj isTarget)
        exact ⟨notDevice, ⟨given, isGiven, leads⟩, takes⟩
      · obtain rfl := Option.some.inj (Except.ok.inj isTarget)
        exact ⟨notDevice, ⟨given, isGiven, leads⟩, takes⟩
    · rintro ⟨_, ⟨given, isGiven, leads⟩, takes⟩
      refine ⟨given, isGiven, place, leads, ?_⟩
      split
      next folder => exact absurd folder takes
      all_goals rfl

/-- A path keeps its target while the folders stay where they are. -/
theorem SameFolders.targets_iff
    {files other : Files}
    (same : files.SameFolders other)
    (path : String)
    (place : List String) :
    files.Targets path place ↔ other.Targets path place := by
  have takes : files.Takes place ↔ other.Takes place := not_congr (same place)
  constructor
  · rintro ⟨notDevice, ⟨given, isGiven, plain, leads⟩, free⟩
    exact ⟨notDevice, ⟨given, isGiven, plain,
      (same.follow_eq_ok_iff given place).mp leads⟩, takes.mp free⟩
  · rintro ⟨notDevice, ⟨given, isGiven, plain, leads⟩, free⟩
    exact ⟨notDevice, ⟨given, isGiven, plain,
      (same.follow_eq_ok_iff given place).mpr leads⟩, takes.mpr free⟩

/-! ## Replacing and reading -/

/-- The bytes of a text are read as the text. -/
theorem readText_of_read
    {files : Files}
    {path text : String}
    (reads : files.read path = .ok text.toUTF8) :
    files.readText path = .ok text := by
  simp only [readText, reads, bind, Except.bind, Text.fromUTF8?_toUTF8]

/-- Give a place a file of lines. -/
def putLines (files : Files) (place lines : List String) : Files :=
  files.put place (.file (Text.unlines lines).toUTF8)

namespace Targets

variable {files : Files} {path : String} {place : List String}

/-- The file at its target is replaced. -/
theorem replace_eq
    (targets : files.Targets path place)
    (isEmpty : Bool)
    (content : Thunk ByteArray) :
    files.replace path isEmpty content =
      .ok (files.put place (.file content.get)) := by
  rw [replace, (target?_eq_ok_some_iff files path place).mpr targets]
  rfl

/-- What is read is what is at the target. -/
theorem read_eq
    (targets : files.Targets path place) :
    files.read path =
      match files.node? place with
      | some (.file content) => .ok content
      | some .folder => .error .isDirectory
      | none => .error .notFound := by
  obtain ⟨given, isGiven, _, leads⟩ := targets.leads
  rcases found : files.node? place with _ | (content | _) <;>
    simp [read, isGiven, leads, found, bind, Except.bind]

/-- A path keeps its target when a file is replaced. -/
theorem put
    (targets : files.Targets path place)
    {other : List String}
    (takes : files.Takes other)
    (content : ByteArray) :
    (files.put other (.file content)).Targets path place :=
  ((takes.sameFolders_put content).targets_iff path place).mp targets

/-- A file is read back after it was replaced. -/
theorem read_put
    (targets : files.Targets path place)
    (content : ByteArray) :
    (files.put place (.file content)).read path = .ok content := by
  rw [(targets.put targets.takes content).read_eq,
    node?_put_same files _ targets.takes.isTop_eq_false]

/-- A file is read as before after another one was replaced. -/
theorem read_put_other
    (targets : files.Targets path place)
    {other : List String}
    (takes : files.Takes other)
    (different : place ≠ other)
    (content : ByteArray) :
    (files.put other (.file content)).read path = files.read path := by
  rw [(targets.put takes content).read_eq, node?_put_other files _ different,
    targets.read_eq]

/-- The text of lines is read back after it was written. -/
theorem readText_putLines
    (targets : files.Targets path place)
    (lines : List String) :
    (files.putLines place lines).readText path = .ok (Text.unlines lines) :=
  readText_of_read (targets.read_put _)

/-- A text is read as before after another file was replaced. -/
theorem readText_putLines_other
    (targets : files.Targets path place)
    {other : List String}
    (takes : files.Takes other)
    (different : place ≠ other)
    (lines : List String) :
    (files.putLines other lines).readText path = files.readText path := by
  rw [readText, putLines, targets.read_put_other takes different, readText]

end Targets

/-- Any file can be put where a path leads exactly if it has a target. The device
takes only the empty one. -/
theorem forall_exists_write_iff
    (files : Files)
    (path : String) :
    (∀ content, ∃ after, files.write path content = .ok after) ↔
      ∃ place, files.Targets path place := by
  constructor
  · intro writable
    obtain ⟨after, written⟩ := writable "1".toUTF8
    rw [write, replace, bind_eq_ok_iff] at written
    obtain ⟨target, isTarget, written⟩ := written
    cases target with
    | none => cases written
    | some place => exact ⟨place, (target?_eq_ok_some_iff ..).mp isTarget⟩
  · rintro ⟨place, targets⟩ content
    exact ⟨_, targets.replace_eq _ _⟩

end Files
end CalculatorTrials
