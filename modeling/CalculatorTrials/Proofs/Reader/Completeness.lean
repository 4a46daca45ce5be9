import CalculatorTrials.Proofs.Reader.Run

/-!
# Every line of the grammar is read

The letters of an operand, a product and a sum take a reader that waits for an
operand to one behind it, and the work of that reader is what the rules of the
grammar say. The three statements are proved together along the derivation: each
of them leaves the groups around alone, a product leaves the sum around it alone
and an operand the product around it.
-/

namespace CalculatorTrials
namespace Pending

/-- A minus sign more is one in front of the operand. -/
theorem signed_succ
    (sum : Option (Calculation × Additive))
    (product : Option (Calculation × Multiplicative))
    (minuses : Nat)
    (operand : Calculation) :
    (Pending.mk sum product (minuses + 1)).signed operand =
      (Pending.mk sum product minuses).signed operand.negate := by
  induction minuses with
  | zero => rfl
  | succ minuses inductionHypothesis =>
      exact congrArg Calculation.negate inductionHypothesis

end Pending

namespace Reader

open Grammar
open Numeral (Scan)

/-! ## Blanks and operators -/

/-- Blanks in front of an operand make no difference. -/
theorem runs_blanks_before
    {letters : List Letter}
    (blanks : Blanks letters)
    (groups : List Pending)
    (work : Pending) :
    Runs ⟨groups, work, .operand⟩ letters ⟨groups, work, .operand⟩ := by
  induction letters with
  | nil => exact .refl
  | cons letter letters inductionHypothesis =>
      obtain ⟨isBlank, others⟩ := List.forall_mem_cons.mp blanks
      exact .step (.blankBefore isBlank) (inductionHypothesis others)

/-- Blanks behind an operand keep it. -/
theorem exists_runs_blanks_behind
    {letters : List Letter}
    {stage : Phase}
    {operand : Calculation}
    (blanks : Blanks letters)
    (complete : stage.operand? = some operand)
    (groups : List Pending)
    (work : Pending) :
    ∃ next, Runs ⟨groups, work, stage⟩ letters ⟨groups, work, next⟩ ∧
      next.operand? = some operand := by
  induction letters generalizing stage with
  | nil => exact ⟨stage, .refl, complete⟩
  | cons letter letters inductionHypothesis =>
      obtain ⟨isBlank, others⟩ := List.forall_mem_cons.mp blanks
      have finished : (Phase.complete operand).operand? = some operand := rfl
      obtain ⟨next, runs, still⟩ := inductionHypothesis others finished
      exact ⟨next, .step (.blankBehind complete isBlank) runs, still⟩

/-- An operator with blanks around it pushes the operand in front of it. -/
theorem runs_operator
    {before behind : List Letter}
    {sign : Letter}
    {stage : Phase}
    {operand : Calculation}
    {operator : Operator}
    (complete : stage.operand? = some operand)
    (blanksBefore : Blanks before)
    (isOperator : sign.terminal = terminal operator)
    (blanksBehind : Blanks behind)
    (groups : List Pending)
    (work : Pending) :
    Runs ⟨groups, work, stage⟩ (before ++ sign :: behind)
      ⟨groups, work.push operand operator, .operand⟩ := by
  obtain ⟨next, runs, still⟩ :=
    exists_runs_blanks_behind blanksBefore complete groups work
  exact runs.trans (.step (.operator operator still isOperator)
    (runs_blanks_before blanksBehind groups _))

/-! ## The levels of the grammar -/

/-- The letters are read as an operand. -/
def ReadsOperand (letters : List Letter) (calculation : Calculation) : Prop :=
  ∀ groups work, ∃ minuses stage operand,
    Runs ⟨groups, work, .operand⟩ letters
      ⟨groups, ⟨work.sum, work.product, minuses⟩, stage⟩ ∧
    stage.operand? = some operand ∧
    (Pending.mk work.sum work.product minuses).signed operand =
      work.signed calculation

/-- The letters are read as a product. -/
def ReadsProduct (letters : List Letter) (calculation : Calculation) : Prop :=
  ∀ groups sum, ∃ product minuses stage operand,
    Runs ⟨groups, ⟨sum, none, 0⟩, .operand⟩ letters
      ⟨groups, ⟨sum, product, minuses⟩, stage⟩ ∧
    stage.operand? = some operand ∧
    (Pending.mk sum product minuses).term operand = calculation

/-- The letters are read as a sum. -/
def ReadsSum (letters : List Letter) (calculation : Calculation) : Prop :=
  ∀ groups, ∃ work stage operand,
    Runs ⟨groups, .empty, .operand⟩ letters ⟨groups, work, stage⟩ ∧
    stage.operand? = some operand ∧ work.total operand = calculation

/-- The letters are read as what a level says. -/
def ReadsLevel : Level → List Letter → Calculation → Prop
  | .sum => ReadsSum
  | .product => ReadsProduct
  | .operand => ReadsOperand

theorem ReadsOperand.product
    {letters : List Letter}
    {calculation : Calculation}
    (reads : ReadsOperand letters calculation) :
    ReadsProduct letters calculation := by
  intro groups sum
  obtain ⟨minuses, stage, operand, runs, complete, signed⟩ :=
    reads groups ⟨sum, none, 0⟩
  exact ⟨none, minuses, stage, operand, runs, complete, signed⟩

theorem ReadsProduct.sum
    {letters : List Letter}
    {calculation : Calculation}
    (reads : ReadsProduct letters calculation) :
    ReadsSum letters calculation := by
  intro groups
  obtain ⟨product, minuses, stage, operand, runs, complete, term⟩ :=
    reads groups none
  exact ⟨⟨none, product, minuses⟩, stage, operand, runs, complete, term⟩

/-- A numeral is read as an operand. -/
theorem ReadsOperand.numeral
    {letters : List Letter}
    {number : Decimal}
    (isNumeral : Grammar.Numeral letters number) :
    ReadsOperand letters (.number number) := by
  intro groups work
  obtain ⟨scan, ⟨first, rest, start, rfl, isFirst, starts, leads⟩, complete⟩ :=
    Scan.Begins.of_numeral isNumeral
  have onwards :
      Runs ⟨groups, work, .numeral start⟩ rest
        ⟨groups, work, .numeral scan⟩ := by
    clear starts isNumeral complete
    induction leads with
    | refl => exact .refl
    | step expected reads _ inductionHypothesis =>
        exact .step (.inside expected reads) inductionHypothesis
  exact ⟨work.minuses, .numeral scan, .number number,
    .step (.start isFirst starts) onwards,
    congrArg (Option.map Calculation.number) complete, rfl⟩

/-- A sum in parentheses is read as an operand. -/
theorem ReadsSum.group
    {opening closing : Letter}
    {before body behind : List Letter}
    {calculation : Calculation}
    (isOpening : opening.terminal = .openGroup)
    (blanksBefore : Blanks before)
    (reads : ReadsSum body calculation)
    (blanksBehind : Blanks behind)
    (isClosing : closing.terminal = .closeGroup) :
    ReadsOperand (opening :: (before ++ body ++ behind ++ [closing]))
      calculation := by
  intro groups work
  obtain ⟨inner, stage, operand, runs, complete, total⟩ :=
    reads (work :: groups)
  obtain ⟨next, blanks, still⟩ :=
    exists_runs_blanks_behind blanksBehind complete (work :: groups) inner
  refine ⟨work.minuses, .complete (inner.total operand), inner.total operand,
    .step (.openGroup isOpening) ?_, rfl, by rw [total]⟩
  exact (((runs_blanks_before blanksBefore _ _).trans runs).trans blanks).trans
    (.single (.closeGroup still isClosing))

/-- An operand behind a plus sign is read as before. -/
theorem ReadsOperand.plus
    {sign : Letter}
    {blanks operand : List Letter}
    {calculation : Calculation}
    (isPlus : sign.terminal = .plus)
    (areBlanks : Blanks blanks)
    (reads : ReadsOperand operand calculation) :
    ReadsOperand (sign :: (blanks ++ operand)) calculation := by
  intro groups work
  obtain ⟨minuses, stage, value, runs, complete, signed⟩ := reads groups work
  exact ⟨minuses, stage, value,
    .step (.plus isPlus) ((runs_blanks_before areBlanks _ _).trans runs),
    complete, signed⟩

/-- An operand behind a minus sign is read as its opposite. -/
theorem ReadsOperand.minus
    {sign : Letter}
    {blanks operand : List Letter}
    {calculation : Calculation}
    (isMinus : sign.terminal = .minus)
    (areBlanks : Blanks blanks)
    (reads : ReadsOperand operand calculation) :
    ReadsOperand (sign :: (blanks ++ operand)) calculation.negate := by
  intro groups work
  obtain ⟨minuses, stage, value, runs, complete, signed⟩ :=
    reads groups ⟨work.sum, work.product, work.minuses + 1⟩
  refine ⟨minuses, stage, value,
    .step (.minus isMinus) ((runs_blanks_before areBlanks _ _).trans runs),
    complete, signed.trans ?_⟩
  exact Pending.signed_succ work.sum work.product work.minuses calculation

/-- A product goes on with a multiplicative operator and an operand. -/
theorem ReadsProduct.multiplicative
    {left before behind right : List Letter}
    {sign : Letter}
    {first second : Calculation}
    (operator : Multiplicative)
    (reads : ReadsProduct left first)
    (blanksBefore : Blanks before)
    (isOperator : sign.terminal = terminal (.multiplicative operator))
    (blanksBehind : Blanks behind)
    (onwards : ReadsOperand right second) :
    ReadsProduct (left ++ before ++ sign :: (behind ++ right))
      (.binary (.multiplicative operator) first second) := by
  intro groups sum
  obtain ⟨product, minuses, stage, value, runs, complete, term⟩ :=
    reads groups sum
  have pushes := runs_operator complete blanksBefore isOperator blanksBehind
    groups ⟨sum, product, minuses⟩
  obtain ⟨minuses', stage', value', runs', complete', signed⟩ :=
    onwards groups
      ((Pending.mk sum product minuses).push value (.multiplicative operator))
  refine ⟨some (first, operator), minuses', stage', value', ?_, complete', ?_⟩
  · rw [← term]
    simpa [Pending.push] using (runs.trans pushes).trans runs'
  · rw [← term]
    exact congrArg (Calculation.binary _ _) signed

/-- A sum goes on with an additive operator and a product. -/
theorem ReadsSum.additive
    {left before behind right : List Letter}
    {sign : Letter}
    {first second : Calculation}
    (operator : Additive)
    (reads : ReadsSum left first)
    (blanksBefore : Blanks before)
    (isOperator : sign.terminal = terminal (.additive operator))
    (blanksBehind : Blanks behind)
    (onwards : ReadsProduct right second) :
    ReadsSum (left ++ before ++ sign :: (behind ++ right))
      (.binary (.additive operator) first second) := by
  intro groups
  obtain ⟨work, stage, value, runs, complete, total⟩ := reads groups
  have pushes := runs_operator complete blanksBefore isOperator blanksBehind
    groups work
  obtain ⟨product, minuses, stage', value', runs', complete', term⟩ :=
    onwards groups (some (work.total value, operator))
  refine ⟨⟨some (work.total value, operator), product, minuses⟩, stage', value',
    ?_, complete', ?_⟩
  · simpa using (runs.trans pushes).trans runs'
  · rw [← total]
    exact congrArg (Calculation.binary _ _) term

/-- Every list of letters of the grammar is read as its level says. -/
theorem readsLevel_of_derives
    {level : Level}
    {letters : List Letter}
    {calculation : Calculation}
    (derives : Derives level letters calculation) :
    ReadsLevel level letters calculation := by
  induction derives with
  | product _ inductionHypothesis => exact inductionHypothesis.sum
  | additive operator _ before isOperator behind _ left right =>
      exact left.additive operator before isOperator behind right
  | operand _ inductionHypothesis => exact inductionHypothesis.product
  | multiplicative operator _ before isOperator behind _ left right =>
      exact left.multiplicative operator before isOperator behind right
  | numeral isNumeral => exact ReadsOperand.numeral isNumeral
  | group isOpening before _ behind isClosing inductionHypothesis =>
      exact inductionHypothesis.group isOpening before behind isClosing
  | plus isPlus blanks _ inductionHypothesis =>
      exact inductionHypothesis.plus isPlus blanks
  | minus isMinus blanks _ inductionHypothesis =>
      exact inductionHypothesis.minus isMinus blanks

/-- The letters of a line take a reader to its end, with the calculation that
the line says. -/
theorem exists_runs_of_line
    {letters : List Letter}
    {calculation : Calculation}
    (line : Line letters calculation) :
    ∃ last, Runs start letters last ∧ last.finish? = some calculation := by
  obtain ⟨blanksBefore, derives, blanksBehind⟩ := line
  obtain ⟨work, stage, operand, runs, complete, total⟩ :=
    readsLevel_of_derives derives []
  obtain ⟨next, blanks, still⟩ :=
    exists_runs_blanks_behind blanksBehind complete [] work
  refine ⟨⟨[], work, next⟩,
    ((runs_blanks_before blanksBefore _ _).trans runs).trans blanks, ?_⟩
  rw [← total]
  exact congrArg (Option.map work.total) still

end Reader
end CalculatorTrials
