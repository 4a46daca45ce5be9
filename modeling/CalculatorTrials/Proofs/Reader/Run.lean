import CalculatorTrials.Proofs.Reader.Step

/-!
# Runs of a reader

A run is a list of steps. Every line starts with the characters of a run that
cannot be gone on with, and reading the line answers what the last reader of
that run answers. From every reader some run comes to the end of a line.
-/

namespace CalculatorTrials
namespace Reader

open Grammar
open Numeral (Scan)

/-- The letters take one reader to another. -/
inductive Runs : Reader → List Letter → Reader → Prop where
  | refl : Runs reader [] reader
  | step :
      Step reader letter next →
      Runs next letters last →
      Runs reader (letter :: letters) last

namespace Runs

theorem single
    {reader next : Reader}
    {letter : Letter}
    (step : Step reader letter next) :
    Runs reader [letter] next :=
  .step step .refl

theorem trans
    {first middle last : Reader}
    {left right : List Letter}
    (runs : Runs first left middle)
    (onwards : Runs middle right last) :
    Runs first (left ++ right) last := by
  induction runs with
  | refl => exact onwards
  | step step _ inductionHypothesis =>
      exact .step step (inductionHypothesis onwards)

/-- A run over two lists of letters is a run over each of them. -/
theorem exists_middle
    {first last : Reader}
    {left right : List Letter}
    (runs : Runs first (left ++ right) last) :
    ∃ middle, Runs first left middle ∧ Runs middle right last := by
  induction left generalizing first with
  | nil => exact ⟨first, .refl, runs⟩
  | cons letter left inductionHypothesis =>
      cases runs with
      | step step onwards =>
          obtain ⟨middle, before, behind⟩ := inductionHypothesis onwards
          exact ⟨middle, .step step before, behind⟩

/-- Reading goes on where a run has led. -/
theorem read
    {first last : Reader}
    {letters : List Letter}
    (runs : Runs first letters last)
    (place : Place)
    (rest : List Char) :
    first.read place (characters letters ++ rest) =
      last.read ((characters letters).foldl Place.next place) rest := by
  induction runs generalizing place with
  | refl => rfl
  | step step _ inductionHypothesis =>
      rw [characters_cons, List.cons_append, Reader.read, step.reads.2]
      exact inductionHypothesis _

/-- A reader comes to one reader only with the same characters. -/
theorem unique
    {first last other : Reader}
    {letters others : List Letter}
    (runs : Runs first letters last)
    (also : Runs first others other)
    (same : characters letters = characters others) :
    last = other := by
  induction runs generalizing others with
  | refl =>
      cases also with
      | refl => rfl
      | step => cases same
  | step step _ inductionHypothesis =>
      cases also with
      | refl => cases same
      | step also onwards =>
          rw [characters_cons, characters_cons, List.cons.injEq] at same
          have reads := step.reads.2
          rw [same.1, also.reads.2] at reads
          obtain rfl := Option.some.inj reads
          exact inductionHypothesis onwards same.2

end Runs

/-- A line starts with the characters of a run, behind which it ends or has a
character that is not read. -/
theorem exists_longest_run (reader : Reader) (line : List Char) :
    ∃ letters rest last,
      characters letters ++ rest = line ∧ Runs reader letters last ∧
        ∀ character later, rest = character :: later →
          last.step? character = none := by
  induction line generalizing reader with
  | nil =>
      refine ⟨[], [], reader, rfl, .refl, ?_⟩
      intro character later impossible
      cases impossible
  | cons first line inductionHypothesis =>
      cases reads : reader.step? first with
      | none =>
          refine ⟨[], first :: line, reader, rfl, .refl, ?_⟩
          intro character later split
          obtain ⟨rfl, rfl⟩ := List.cons.inj split
          exact reads
      | some next =>
          obtain ⟨letter, rfl, step⟩ := Step.of_step? reads
          obtain ⟨letters, rest, last, rfl, runs, stuck⟩ :=
            inductionHypothesis next
          exact ⟨letter :: letters, rest, last, rfl, .step step runs, stuck⟩

/-! ## Runs to the end of a line -/

/-- Behind an operand a line can end once its groups are closed. -/
theorem exists_end_behind
    {operand : Calculation}
    (groups : List Pending)
    (work : Pending)
    (stage : Phase)
    (complete : stage.operand? = some operand) :
    ∃ letters last calculation,
      Runs ⟨groups, work, stage⟩ letters last ∧
        last.finish? = some calculation := by
  induction groups generalizing work stage operand with
  | nil =>
      exact ⟨[], ⟨[], work, stage⟩, work.total operand, .refl,
        congrArg (Option.map work.total) complete⟩
  | cons around groups inductionHypothesis =>
      obtain ⟨letters, last, calculation, runs, finishes⟩ :=
        inductionHypothesis around (.complete (work.total operand)) rfl
      exact ⟨.closing :: letters, last, calculation,
        .step (.closeGroup complete rfl) runs, finishes⟩

/-- From every reader some letters lead to the end of a line. -/
theorem exists_end (reader : Reader) :
    ∃ letters last calculation,
      Runs reader letters last ∧ last.finish? = some calculation := by
  obtain ⟨groups, work, stage⟩ := reader
  have complete_of_number {scan : Scan} {number : Decimal}
      (isNumber : scan.decimal? = some number) :
      (Phase.numeral scan).operand? = some (.number number) :=
    congrArg (Option.map Calculation.number) isNumber
  cases stage with
  | complete operand => exact exists_end_behind groups work _ rfl
  | operand =>
      obtain ⟨letters, last, calculation, runs, finishes⟩ :=
        exists_end_behind groups work (.numeral (.whole 0)) rfl
      exact ⟨.zero :: letters, last, calculation,
        .step (.start (.inl rfl) rfl) runs, finishes⟩
  | numeral scan =>
      rcases scan.complete_or_digit with
        ⟨number, isNumber⟩ | ⟨next, number, reads, isNumber⟩
      · exact exists_end_behind groups work _ (complete_of_number isNumber)
      · obtain ⟨letters, last, calculation, runs, finishes⟩ :=
          exists_end_behind groups work _ (complete_of_number isNumber)
        have expected : expectsInside scan Letter.zero.terminal = true := by
          cases scan <;> rfl
        exact ⟨.zero :: letters, last, calculation,
          .step (.inside expected reads) runs, finishes⟩

end Reader
end CalculatorTrials
