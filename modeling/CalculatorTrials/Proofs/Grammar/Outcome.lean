import CalculatorTrials.Proofs.Arithmetic
import CalculatorTrials.Proofs.Numeral.Value

/-!
# Outcomes by the grammar

The rules of the grammar can carry outcomes in place of calculations: a numeral is
the number of its text, and an operator or a sign makes an outcome of those of its
operands by arithmetic alone. What a line yields by these rules is the outcome of
the calculation that it says.
-/

namespace CalculatorTrials
namespace Grammar

/-- The lists of letters of a level with their outcomes. -/
inductive Yields : Level → List Letter → Outcome → Prop where
  | product :
      Yields .product letters outcome →
      Yields .sum letters outcome
  | additive (operator : Additive) :
      Yields .sum left first →
      Blanks before →
      sign.terminal = terminal (.additive operator) →
      Blanks behind →
      Yields .product right second →
      Operator.Yields (.additive operator) first second outcome →
      Yields .sum (left ++ before ++ sign :: (behind ++ right)) outcome
  | operand :
      Yields .operand letters outcome →
      Yields .product letters outcome
  | multiplicative (operator : Multiplicative) :
      Yields .product left first →
      Blanks before →
      sign.terminal = terminal (.multiplicative operator) →
      Blanks behind →
      Yields .operand right second →
      Operator.Yields (.multiplicative operator) first second outcome →
      Yields .product (left ++ before ++ sign :: (behind ++ right)) outcome
  | numeral :
      Numeral letters decimal →
      Binary64.parse? (characters letters) = some number →
      Yields .operand letters (.value number)
  | group :
      opening.terminal = .openGroup →
      Blanks before →
      Yields .sum body outcome →
      Blanks behind →
      closing.terminal = .closeGroup →
      Yields .operand (opening :: (before ++ body ++ behind ++ [closing]))
        outcome
  | plus :
      sign.terminal = .plus →
      Blanks blanks →
      Yields .operand operand outcome →
      Yields .operand (sign :: (blanks ++ operand)) outcome
  | minus :
      sign.terminal = .minus →
      Blanks blanks →
      Yields .operand operand outcome →
      opposite.IsOpposite outcome →
      Yields .operand (sign :: (blanks ++ operand)) opposite

/-- The characters are a line that yields the outcome. -/
def LineYields (line : List Char) (outcome : Outcome) : Prop :=
  ∃ before letters behind,
    Blanks before ∧ Yields .sum letters outcome ∧ Blanks behind ∧
      characters (before ++ letters ++ behind) = line

/-- What is derived yields the outcome of its calculation. -/
theorem Derives.yields
    {level : Level}
    {letters : List Letter}
    {calculation : Calculation}
    (derives : Derives level letters calculation) :
    Yields level letters calculation.outcome := by
  induction derives with
  | product _ inductionHypothesis => exact .product inductionHypothesis
  | additive operator _ blanksBefore isSign blanksBehind _ firstHypothesis
      secondHypothesis =>
      exact .additive operator firstHypothesis blanksBefore isSign blanksBehind
        secondHypothesis (Operator.yields_combine _ _ _)
  | operand _ inductionHypothesis => exact .operand inductionHypothesis
  | multiplicative operator _ blanksBefore isSign blanksBehind _ firstHypothesis
      secondHypothesis =>
      exact .multiplicative operator firstHypothesis blanksBefore isSign
        blanksBehind secondHypothesis (Operator.yields_combine _ _ _)
  | numeral isNumeral =>
      exact .numeral isNumeral (Binary64.parse?_of_numeral isNumeral)
  | group isOpening blanksBefore _ blanksBehind isClosing inductionHypothesis =>
      exact .group isOpening blanksBefore inductionHypothesis blanksBehind
        isClosing
  | plus isSign areBlanks _ inductionHypothesis =>
      exact .plus isSign areBlanks inductionHypothesis
  | minus isSign areBlanks _ inductionHypothesis =>
      exact .minus isSign areBlanks inductionHypothesis
        ((Outcome.isOpposite_iff _ _).mpr rfl)

/-- What yields an outcome is derived, with a calculation of that outcome. -/
theorem Yields.exists_derives
    {level : Level}
    {letters : List Letter}
    {outcome : Outcome}
    (yields : Yields level letters outcome) :
    ∃ calculation,
      Derives level letters calculation ∧ calculation.outcome = outcome := by
  induction yields with
  | product _ inductionHypothesis =>
      obtain ⟨calculation, derives, same⟩ := inductionHypothesis
      exact ⟨calculation, .product derives, same⟩
  | additive operator _ blanksBefore isSign blanksBehind _ arithmetic
      firstHypothesis secondHypothesis =>
      obtain ⟨first, firstDerives, rfl⟩ := firstHypothesis
      obtain ⟨second, secondDerives, rfl⟩ := secondHypothesis
      exact ⟨_, .additive operator firstDerives blanksBefore isSign blanksBehind
        secondDerives, arithmetic.combine_eq⟩
  | operand _ inductionHypothesis =>
      obtain ⟨calculation, derives, same⟩ := inductionHypothesis
      exact ⟨calculation, .operand derives, same⟩
  | multiplicative operator _ blanksBefore isSign blanksBehind _ arithmetic
      firstHypothesis secondHypothesis =>
      obtain ⟨first, firstDerives, rfl⟩ := firstHypothesis
      obtain ⟨second, secondDerives, rfl⟩ := secondHypothesis
      exact ⟨_, .multiplicative operator firstDerives blanksBefore isSign
        blanksBehind secondDerives, arithmetic.combine_eq⟩
  | @numeral letters decimal number isNumeral reads =>
      rw [Binary64.parse?_of_numeral isNumeral] at reads
      exact ⟨.number decimal, .numeral isNumeral,
        congrArg Outcome.value (Option.some.inj reads)⟩
  | group isOpening blanksBefore _ blanksBehind isClosing inductionHypothesis =>
      obtain ⟨calculation, derives, same⟩ := inductionHypothesis
      exact ⟨calculation, .group isOpening blanksBefore derives blanksBehind
        isClosing, same⟩
  | plus isSign areBlanks _ inductionHypothesis =>
      obtain ⟨calculation, derives, same⟩ := inductionHypothesis
      exact ⟨calculation, .plus isSign areBlanks derives, same⟩
  | minus isSign areBlanks _ isOpposite inductionHypothesis =>
      obtain ⟨calculation, derives, rfl⟩ := inductionHypothesis
      exact ⟨.negate calculation, .minus isSign areBlanks derives,
        (Outcome.isOpposite_iff _ _).mp isOpposite⟩

/-- A line yields the outcomes of the calculations that it says. -/
theorem lineYields_iff
    (line : List Char)
    (outcome : Outcome) :
    LineYields line outcome ↔
      ∃ calculation,
        Says line calculation ∧ calculation.outcome = outcome := by
  constructor
  · rintro ⟨before, letters, behind, blanksBefore, yields, blanksBehind, rfl⟩
    obtain ⟨calculation, derives, same⟩ := yields.exists_derives
    exact ⟨calculation,
      ⟨_, .intro blanksBefore derives blanksBehind, rfl⟩, same⟩
  · rintro ⟨calculation, ⟨letters, isLine, rfl⟩, rfl⟩
    obtain ⟨blanksBefore, derives, blanksBehind⟩ := isLine
    exact ⟨_, _, _, blanksBefore, derives.yields, blanksBehind, rfl⟩

end Grammar
end CalculatorTrials
