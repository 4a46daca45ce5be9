import CalculatorTrials.Proofs.Case.Iterator
import CalculatorTrials.Proofs.Workspace.Atomicity

/-!
# Files of more cases

As the cases of a seed do not depend on how many of them are made, a file of more
cases goes on where a file of fewer ones ends. Each further case can have at most
one new shape.
-/

namespace CalculatorTrials
namespace Corpus

/-- The items of a corpus are the cases in order, text and shape side by side. -/
theorem items_generate_eq_take
    (generator : Generator)
    (count : Nat)
    (seed : UInt64) :
    (generate generator count seed).items =
      (generator.iterate (Observer.text.pair .shape) seed).take count :=
  ((CaseIterator.at_iterate ..).take_eq count).symm

/-- The lines of a corpus are the texts of the cases in order. -/
theorem lines_generate_eq_take
    (generator : Generator)
    (count : Nat)
    (seed : UInt64) :
    (generate generator count seed).lines =
      (generator.iterate .text seed).take count := by
  rw [lines_generate, (CaseIterator.at_iterate ..).take_eq count]

/-- Further items add no more shapes than there are of them, and none is lost. -/
theorem shapes_append
    (items further : List (String × UInt64)) :
    (Corpus.mk items).summary.shapes ≤
        (Corpus.mk (items ++ further)).summary.shapes ∧
      (Corpus.mk (items ++ further)).summary.shapes ≤
        (Corpus.mk items).summary.shapes + further.length := by
  simp only [summary, size_ofList, List.map_append, List.toFinset_append]
  constructor
  · exact Finset.card_le_card Finset.subset_union_left
  · calc ((items.map Prod.snd).toFinset ∪ (further.map Prod.snd).toFinset).card
        ≤ (items.map Prod.snd).toFinset.card +
            (further.map Prod.snd).toFinset.card := Finset.card_union_le ..
      _ ≤ (items.map Prod.snd).toFinset.card + (further.map Prod.snd).length :=
          Nat.add_le_add_left (List.toFinset_card_le _) _
      _ = (items.map Prod.snd).toFinset.card + further.length := by
          rw [List.length_map]

/-- More cases have all shapes of fewer ones, and at most one more for each case
more. -/
theorem shapes_generate_le
    (generator : Generator)
    (seed : UInt64)
    {fewer more : Nat}
    (atMost : fewer ≤ more) :
    (generate generator fewer seed).summary.shapes ≤
        (generate generator more seed).summary.shapes ∧
      (generate generator more seed).summary.shapes ≤
        (generate generator fewer seed).summary.shapes + (more - fewer) := by
  obtain ⟨further, rfl⟩ := Nat.exists_eq_add_of_le atMost
  let iterator := generator.iterate (Observer.text.pair .shape) seed
  have goesOn : generate generator (fewer + further) seed =
      ⟨(generate generator fewer seed).items ++
        (iterator.skip fewer).take further⟩ := by
    rw [items_generate_eq_take, ← iterator.take_add, ← items_generate_eq_take]
  have shapes := shapes_append (generate generator fewer seed).items
    ((iterator.skip fewer).take further)
  rw [← goesOn, CaseIterator.length_take] at shapes
  rw [Nat.add_sub_cancel_left]
  exact shapes

/-- The lines of fewer cases are the first ones of those of more cases. -/
theorem lines_generate_eq_take_take
    (generator : Generator)
    (seed : UInt64)
    {fewer more : Nat}
    (atMost : fewer ≤ more) :
    (generate generator fewer seed).lines =
      ((generator.iterate .text seed).take more).take fewer := by
  have fits : 0 + fewer ≤ more := by rwa [Nat.zero_add]
  rw [lines_generate_eq_take]
  exact CaseIterator.take_skip_eq _ fits

end Corpus

/-- Each case of a seed is drawn from its own bytes of the key stream, whatever
the generator made of those before them. So the cases behind some others are a
part of all cases that are made in one go. Where two numbers of them are written
to files, one file holds the first lines of the other one, and each line that it
lacks can be of one shape that it lacks. -/
theorem cases_have_own_bytes (generator : Generator) (seed : UInt64) :
    (∀ (State : Type) (observer : Observer State) (index : Nat),
      ((generator.iterate observer seed).skip index).next.1 =
        ((generator.watch observer .expression).run
          (KeyStream.bytes (KeyStream.origin seed) (4096 * index) 4096)).1) ∧
    (∀ (State : Type) (observer : Observer State) (index count longer : Nat),
      index + count ≤ longer →
        ((generator.iterate observer seed).skip index).take count =
          (((generator.iterate observer seed).take longer).drop index).take
            count) ∧
    ∀ (fewer more : Nat) (path otherPath : String)
      (before behind otherBefore otherBehind : Files)
      (summary otherSummary : Summary) (entries otherEntries : Journal),
      fewer ≤ more →
      (Activity.writeTests generator fewer seed path).runOn before =
        (.ok summary, entries, behind) →
      (Activity.writeTests generator more seed otherPath).runOn otherBefore =
        (.ok otherSummary, otherEntries, otherBehind) →
      let lines := (generator.iterate .text seed).take more
      behind.Holds path (lines.take fewer) ∧
        otherBehind.Holds otherPath lines ∧
        lines.length = more ∧
        (∀ line ∈ lines, Text.IsLine line.toList) ∧
        summary.shapes ≤ otherSummary.shapes ∧
        otherSummary.shapes ≤ summary.shapes + (more - fewer) := by
  refine ⟨?_, ?_, ?_⟩
  · intro State observer index
    have isAt := (CaseIterator.at_iterate generator observer seed).skip index
    have fromBytes := generator.run_watch_bytes observer
      (KeyStream.origin seed) index
    rw [isAt.next.1, Nat.zero_add, ← fromBytes, bytesPerCase]
  · intro State observer index count longer fits
    exact CaseIterator.take_skip_eq _ fits
  · intro fewer more path otherPath before behind otherBefore otherBehind
      summary otherSummary entries otherEntries atMost run otherRun
    obtain ⟨_, writes⟩ :=
      Activity.writesLines_writeTests generator fewer seed path
    obtain ⟨_, otherWrites⟩ :=
      Activity.writesLines_writeTests generator more seed otherPath
    obtain ⟨rfl, rewritten⟩ := writes.rewritten run
    obtain ⟨rfl, otherRewritten⟩ := otherWrites.rewritten otherRun
    rw [Corpus.lines_generate_eq_take_take generator seed atMost] at rewritten
    have areLines := Corpus.lines_generate_eq_take generator more seed ▸
      Corpus.isLine_of_mem_lines
    rw [Corpus.lines_generate_eq_take] at otherRewritten
    exact ⟨rewritten.holds, otherRewritten.holds, CaseIterator.length_take ..,
      areLines, Corpus.shapes_generate_le generator seed atMost⟩

/-- One case is written to a file where there are no files, and two cases are
written to it from the same start. -/
theorem cases_have_own_bytes_of_one_and_two :
    ∃ (behind otherBehind : Files) (summary otherSummary : Summary),
      let lines := (({} : Generator).iterate .text 0).take 2
      behind.Holds "a" (lines.take 1) ∧ otherBehind.Holds "a" lines ∧
        summary.shapes ≤ otherSummary.shapes ∧
        otherSummary.shapes ≤ summary.shapes + 1 := by
  have targets : Files.empty.Targets "a" ["a"] := by
    rw [← Files.target?_eq_ok_some_iff]
    cbv
  have rewritten (count : Nat) : Files.empty.Rewritten "a"
      (Corpus.generate {} count 0).lines _ := .file targets
  have run := (Activity.runs_writeTests (rewritten 1)).runOn_eq
  have otherRun := (Activity.runs_writeTests (rewritten 2)).runOn_eq
  obtain ⟨_, _, files⟩ := cases_have_own_bytes {} 0
  obtain ⟨holds, otherHolds, _, _, shapes⟩ :=
    files 1 2 "a" "a" _ _ _ _ _ _ _ _ (by decide) run otherRun
  exact ⟨_, _, _, _, holds, otherHolds, shapes⟩

end CalculatorTrials
