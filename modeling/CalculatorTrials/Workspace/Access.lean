import CalculatorTrials.Failure
import CalculatorTrials.Journal
import CalculatorTrials.Text.Lines

/-!
# Access to a workspace

Activities read and write text files and keep a journal. They are written for
any place that offers these three operations, and end early with a failure.
-/

namespace CalculatorTrials

/-- A text that is to be written. Whether it is empty is known before it is
worked out. -/
structure Draft where
  isEmpty : Bool
  text : Thunk String
  isEmpty_eq : isEmpty = text.get.isEmpty

namespace Draft

/-- The draft of lines whose number is known. -/
def ofLines
    (count : Nat)
    (lines : Thunk (List String))
    (length_eq : lines.get.length = count) : Draft where
  isEmpty := count == 0
  text := lines.map Text.unlines
  isEmpty_eq := by
    subst length_eq
    change (lines.get.length == 0) = (Text.unlines lines.get).isEmpty
    cases lines.get <;> simp

end Draft

/-- A place with files and a journal. -/
class MonadWorkspace (m : Type → Type) where
  /-- The text of a file. -/
  readText : (path : String) → m (Except FileFault String)
  /-- Replace a file by a text. The text is not needed if the file cannot be
  made. -/
  writeText : (path : String) → Draft → m (Except FileFault Unit)
  /-- Add an entry to the journal. -/
  record : Entry → m Unit

/-- Something done in a workspace that has a result or fails. -/
abbrev Activity (m : Type → Type) := ExceptT Failure m

namespace Activity

variable [Monad m] [MonadWorkspace m]

/-- Read a file. -/
def readText (path : String) : Activity m String :=
  .mk do return (← MonadWorkspace.readText path).mapError (.file path)

/-- Replace a file by a text. -/
def writeText (path : String) (draft : Draft) : Activity m Unit :=
  .mk do return (← MonadWorkspace.writeText path draft).mapError (.file path)

/-- Add an entry to the journal. -/
def record (entry : Entry) : Activity m Unit :=
  .lift (MonadWorkspace.record entry)

/-- Add the entries of a part of the work to the journal. -/
def recordAll (journal : Journal) : Activity m Unit :=
  journal.forM record

end Activity
end CalculatorTrials
