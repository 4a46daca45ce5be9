import Std.Data.HashSet
import CalculatorTrials.Case
import CalculatorTrials.Expression.Shape
import CalculatorTrials.Text.Lines
import CalculatorTrials.Workspace.Access

/-!
# Files of test cases

A file of test cases has a case on each line, in the order of a seed's cases.
-/

namespace CalculatorTrials

/-- What a file of test cases holds. -/
structure Summary where
  /-- The number of cases. -/
  cases : Nat
  /-- The number of different shapes among them. -/
  shapes : Nat
  deriving DecidableEq, Repr

/-- Test cases with their shapes. -/
structure Corpus where
  items : List (String × UInt64)

namespace Corpus

/-- The first cases of a seed. -/
def generate
    (generator : Generator)
    (count : Nat)
    (seed : UInt64) : Corpus :=
  let observer := Observer.text.pair .shape
  ⟨(generator.cases seed 0 count).map fun derivation =>
    observer.observe derivation.events⟩

@[simp] theorem length_items_generate
    (generator : Generator)
    (count : Nat)
    (seed : UInt64) :
    (generate generator count seed).items.length = count := by
  simp [generate, Generator.cases]

/-- The lines of the file, one for each case. -/
def lines (corpus : Corpus) : List String :=
  corpus.items.map Prod.fst

/-- The summary of the cases. -/
def summary (corpus : Corpus) : Summary where
  cases := corpus.items.length
  shapes := (Std.HashSet.ofList (corpus.items.map Prod.snd)).size

end Corpus

namespace Activity

variable [Monad m] [MonadWorkspace m]

/-- Write the first cases of a seed to a file. -/
def writeTests
    (generator : Generator)
    (count : Nat)
    (seed : UInt64)
    (path : String) : Activity m Summary := do
  let corpus := Thunk.mk fun _ => Corpus.generate generator count seed
  writeText path (.ofLines count (corpus.map Corpus.lines)
    (by simp [corpus, Thunk.map, Thunk.get, Corpus.lines]))
  let summary := corpus.get.summary
  record ⟨.info, .corpus,
    s!"wrote {summary.cases} test cases ({summary.shapes} shapes, " ++
      s!"seed {seed}, max depth {generator.maxDepth}) to {path}"⟩
  return summary

/-- Write the first cases of the default generator and seed to a file. -/
def generateTests (count : Nat) (path : String) : Activity m Summary :=
  writeTests {} count defaultSeed path

end Activity
end CalculatorTrials
