import CalculatorTrials.Workspace.Transcripts

/-!
# Commands

The commands make test cases, work out the transcripts expected for them, and
compare a calculator's transcript with the expected one.
-/

namespace CalculatorTrials

/-- The settings of a command that makes test cases. -/
structure Generation where
  count : Nat
  /-- The seed, or none for a seed taken at random. -/
  seed : Option UInt64
  maxDepth : Nat
  deriving DecidableEq, Repr

/-- A command. -/
inductive Command where
  | generate (generation : Generation) (testFile : String)
  | expects (testFile expectFile : String)
  | both (generation : Generation) (testFile expectFile : String)
  | check (expectFile resultsFile : String)
  deriving DecidableEq, Repr

/-- What a command leaves behind beside its files and its journal. -/
structure Response where
  /-- Whether all went well. -/
  success : Bool
  /-- The text for the standard output. -/
  output : String
  deriving DecidableEq, Repr

/-- The code with which the program ends: zero if all went well. -/
def Response.exitCode (response : Response) : UInt32 :=
  if response.success then 0 else 1

namespace Generation

variable [Monad m] [MonadWorkspace m]

/-- Write test cases. A random seed is given from outside. -/
def write
    (generation : Generation)
    (randomSeed : UInt64)
    (testFile : String) : Activity m Unit := do
  let summary ← Activity.writeTests { maxDepth := generation.maxDepth }
    generation.count (generation.seed.getD randomSeed) testFile
  Activity.record ⟨.debug, .command,
    s!"Summary \x7b cases: {summary.cases}, shapes: {summary.shapes} \x7d"⟩

end Generation

namespace Command

variable [Monad m] [MonadWorkspace m]

/-- Carry out a command. -/
def perform (randomSeed : UInt64) : Command → Activity m Response
  | generate generation testFile => do
      generation.write randomSeed testFile
      return ⟨true, ""⟩
  | expects testFile expectFile => do
      let _ ← Activity.writeExpectations testFile expectFile
      return ⟨true, ""⟩
  | both generation testFile expectFile => do
      generation.write randomSeed testFile
      let _ ← Activity.writeExpectations testFile expectFile
      return ⟨true, ""⟩
  | check expectFile resultsFile => do
      let report ← Activity.check expectFile resultsFile
      return ⟨report.isClean, report.text⟩

/-- Carry out a command, and note in the journal why it fails if it does. -/
def respond (randomSeed : UInt64) (command : Command) : m Response := do
  match ← ExceptT.run (command.perform randomSeed : Activity m Response) with
  | .ok response => return response
  | .error failure =>
      MonadWorkspace.record ⟨.error, .command, failure.text⟩
      return ⟨false, ""⟩

end Command
end CalculatorTrials
