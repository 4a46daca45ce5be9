import CalculatorTrials.Proofs.Workspace.Files

/-!
# What replacing a file changes

A file is replaced at one place, and on the device at none. What was at the place
before makes no difference, and nothing else is changed, so texts that are read
from other places stay what they were.
-/

namespace CalculatorTrials
namespace Files

/-- What was at a place makes no difference when it gets another node. -/
theorem put_put
    (files : Files)
    (place : List String)
    (node other : Node) :
    (files.put place node).put place other = files.put place other := by
  refine congrArg Files.mk (funext fun another => ?_)
  by_cases same : another = place <;> simp [put, same]

/-- Different places get their nodes in any order. -/
theorem put_comm
    (files : Files)
    {place other : List String}
    (different : place ≠ other)
    (node otherNode : Node) :
    (files.put place node).put other otherNode =
      (files.put other otherNode).put place node := by
  refine congrArg Files.mk (funext fun another => ?_)
  by_cases same : another = place
  · subst same
    simp [put, different]
  · simp [put, same]

/-! ## Where paths lead -/

/-- The path leads to the place, whatever is there. -/
def Leads (files : Files) (path : String) (place : List String) : Prop :=
  ∃ given, names path = .ok given ∧ files.follow given = .ok place

theorem Targets.leadsTo
    {files : Files}
    {path : String}
    {place : List String}
    (targets : files.Targets path place) :
    files.Leads path place :=
  let ⟨given, isGiven, _, leads⟩ := targets.leads
  ⟨given, isGiven, leads⟩

theorem SameFolders.leads_iff
    {files other : Files}
    (same : files.SameFolders other)
    (path : String)
    (place : List String) :
    files.Leads path place ↔ other.Leads path place := by
  simp only [Leads, same.follow_eq_ok_iff]

/-! ## Files with given lines -/

/-- The file of the path is replaced by one with the lines, and nothing else is
changed. On the device there can be no lines, and nothing is changed at all. -/
inductive Rewritten
    (before : Files)
    (path : String)
    (lines : List String) : Files → Prop
  | file {place : List String} (targets : before.Targets path place) :
      Rewritten before path lines (before.putLines place lines)
  | device (isDevice : path = fullDevice) (noLines : lines = []) :
      Rewritten before path lines before

/-- The lines are all that is in the file of the path. On the device there are
none. -/
def Holds (files : Files) (path : String) (lines : List String) : Prop :=
  files.readText path = .ok (Text.unlines lines) ∨
    (path = fullDevice ∧ lines = [])

theorem target?_eq_ok_none_iff (files : Files) (path : String) :
    files.target? path = .ok none ↔ path = fullDevice := by
  rw [target?]
  split
  next isDevice => exact iff_of_true rfl isDevice
  next notDevice =>
    refine iff_of_false ?_ notDevice
    simp only [bind_eq_ok_iff]
    rintro ⟨_, _, _, _, isTarget⟩
    split at isTarget <;> cases isTarget

/-- A text of lines is written exactly if the file is replaced by one with the
lines. -/
theorem writeText_eq_ok_iff
    {files behind : Files}
    {path : String}
    {draft : Draft}
    {lines : List String}
    (isText : draft.text.get = Text.unlines lines) :
    files.writeText path draft = .ok behind ↔
      files.Rewritten path lines behind := by
  have content : (draft.text.map String.toUTF8).get =
      (Text.unlines lines).toUTF8 := congrArg String.toUTF8 isText
  have isEmpty : draft.isEmpty = lines.isEmpty := by
    rw [draft.isEmpty_eq, isText, Text.isEmpty_unlines]
  rw [writeText, isEmpty]
  constructor
  · intro written
    obtain ⟨target, isTarget, written⟩ := bind_eq_ok_iff.mp written
    cases target with
    | none =>
        rw [target?_eq_ok_none_iff] at isTarget
        cases lines with
        | nil =>
            obtain rfl := Except.ok.inj written
            exact .device isTarget rfl
        | cons line lines => cases written
    | some place =>
        rw [target?_eq_ok_some_iff] at isTarget
        obtain rfl := Except.ok.inj written
        rw [content]
        exact .file isTarget
  · rintro (⟨targets⟩ | ⟨isDevice, rfl⟩)
    · rw [targets.replace_eq, content]
      rfl
    · rw [replace, (files.target?_eq_ok_none_iff path).mpr isDevice]
      rfl

namespace Rewritten

variable {before behind : Files} {path : String} {lines : List String}

/-- What was written is read back. -/
theorem holds (rewritten : before.Rewritten path lines behind) :
    behind.Holds path lines := by
  cases rewritten with
  | file targets => exact .inl (targets.readText_putLines lines)
  | device isDevice noLines => exact .inr ⟨isDevice, noLines⟩

/-- Where the path has a place, the file is there. -/
theorem eq_putLines
    (rewritten : before.Rewritten path lines behind)
    {place : List String}
    (targets : before.Targets path place) :
    behind = before.putLines place lines := by
  cases rewritten with
  | file others =>
      have isTarget := (target?_eq_ok_some_iff ..).mpr targets
      rw [(target?_eq_ok_some_iff ..).mpr others] at isTarget
      rw [Option.some.inj (Except.ok.inj isTarget)]
  | device isDevice _ => exact absurd isDevice targets.notDevice

theorem sameFolders (rewritten : before.Rewritten path lines behind) :
    before.SameFolders behind := by
  cases rewritten with
  | file targets => exact targets.takes.sameFolders_put _
  | device => exact fun _ => Iff.rfl

/-- What the file held before makes no difference. -/
theorem put_before
    (rewritten : before.Rewritten path lines behind)
    {place : List String}
    (targets : before.Targets path place)
    (content : ByteArray) :
    (before.put place (.file content)).Rewritten path lines behind := by
  have same : before.putLines place lines =
      (before.put place (.file content)).putLines place lines :=
    (before.put_put place _ _).symm
  rw [rewritten.eq_putLines targets, same]
  exact .file (targets.put targets.takes content)

/-- What another file holds stays as it is. -/
theorem put_elsewhere
    (rewritten : before.Rewritten path lines behind)
    {place : List String}
    (takes : before.Takes place)
    (elsewhere : ¬before.Leads path place)
    (content : ByteArray) :
    (before.put place (.file content)).Rewritten path lines
      (behind.put place (.file content)) := by
  cases rewritten with
  | device isDevice noLines => exact .device isDevice noLines
  | @file other targets =>
      have different : other ≠ place := by
        rintro rfl
        exact elsewhere targets.leadsTo
      rw [putLines, before.put_comm different]
      exact .file (targets.put takes content)

end Rewritten

/-! ## Texts at other places -/

/-- A text is read where a path leads to a file with its bytes. -/
theorem readText_eq_ok_iff
    (files : Files)
    (path text : String) :
    files.readText path = .ok text ↔
      ∃ place content, files.Leads path place ∧
        files.node? place = some (.file content) ∧
        String.fromUTF8? content = some text := by
  simp only [readText, read, bind_eq_ok_iff, Leads]
  constructor
  · rintro ⟨content, ⟨given, isGiven, place, leads, found⟩, isText⟩
    split at found
    next isFile =>
      obtain rfl := Except.ok.inj found
      split at isText
      next decodes =>
        obtain rfl := Except.ok.inj isText
        exact ⟨place, _, ⟨given, isGiven, leads⟩, isFile, decodes⟩
      next => cases isText
    all_goals cases found
  · rintro ⟨place, content, ⟨given, isGiven, leads⟩, isFile, decodes⟩
    refine ⟨content, ⟨given, isGiven, place, leads, ?_⟩, ?_⟩
    · rw [isFile]
    · rw [decodes]

/-- A text stays what it was when a file is put at a place where it was not read. -/
theorem readText_put_of_not_leads
    {files : Files}
    {path text : String}
    {place : List String}
    (reads : files.readText path = .ok text)
    (takes : files.Takes place)
    (elsewhere : ¬files.Leads path place)
    (content : ByteArray) :
    (files.put place (.file content)).readText path = .ok text := by
  rw [readText_eq_ok_iff] at reads ⊢
  obtain ⟨other, otherContent, leads, isFile, decodes⟩ := reads
  have different : other ≠ place := by
    rintro rfl
    exact elsewhere leads
  refine ⟨other, otherContent, ?_, ?_, decodes⟩
  · exact ((takes.sameFolders_put content).leads_iff path other).mp leads
  · rw [node?_put_other files _ different]
    exact isFile

end Files
end CalculatorTrials
