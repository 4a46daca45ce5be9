import CalculatorTrials.CommandLine.Arguments
import CalculatorTrials.CommandLine.Screen

/-!
# The program

The outer layer: it takes arguments and the journal filter from the system,
works on real files, and shows journal entries on the error stream as they come.
-/

namespace CalculatorTrials

/-- The fault that a system error stands for. -/
def FileFault.ofSystem : IO.Error → FileFault
  | .noFileOrDirectory .. => .notFound
  | .inappropriateType _ 21 _ => .isDirectory
  | .inappropriateType .. => .notDirectory
  | .resourceExhausted _ 28 _ => .noSpace
  | .invalidArgument _ 36 _ => .nameTooLong
  | fault => .other (toString fault)

/-- Run an action on the file of a path and take its error as a fault. -/
def attempt (path : String) (action : IO α) : IO (Except FileFault α) := do
  if path.contains '\x00' then return .error .nulInPath
  match ← action.toBaseIO with
  | .ok value => return .ok value
  | .error fault => return .error (.ofSystem fault)

/-- The workspace of the system, with the filter for its journal. -/
instance : MonadWorkspace (ReaderT Filter IO) where
  readText path := do
    match ← attempt path (IO.FS.readBinFile path) with
    | .ok bytes =>
        match String.fromUTF8? bytes with
        | some text => return .ok text
        | none => return .error .notText
    | .error fault => return .error fault
  writeText path draft :=
    attempt path do
      let handle ← IO.FS.Handle.mk path .write
      handle.putStr draft.text.get
      handle.flush
  record entry := do
    if (← read).shows entry then
      let lead := s!"[{entry.severity.name} {entry.origin.name}] "
      IO.eprint (lead ++ entry.shownText)

/-- A seed from the system. -/
def randomSeed : IO UInt64 := do
  let bytes ← IO.getRandomBytes 8
  return bytes.foldl (fun seed byte => seed <<< 8 ||| byte.toUInt64) 0

end CalculatorTrials

open CalculatorTrials in
/-- Run the program. Arguments that make no sense end it with code two. -/
def main (arguments : List String) : IO UInt32 := do
  match Request.parse? arguments with
  | none =>
      IO.eprintln "error: the arguments make no sense"
      return 2
  | some .version =>
      IO.print Request.versionText
      return 0
  | some (.perform command) =>
      let filter := Filter.parse ((← IO.getEnv "RUST_LOG").getD "info")
      let seed ← randomSeed
      let response ← ReaderT.run (command.respond seed) filter
      IO.print response.output
      return response.exitCode
