import CalculatorTrials.Proofs.Division
import CalculatorTrials.Proofs.Reader.Soundness

/-!
# Parts of a line

Whatever a rule of the grammar derives is a line by itself. Every part of what a
line says is said by characters that stand together in the line.
-/

namespace CalculatorTrials
namespace Grammar

/-- What is derived at any level is a line. -/
theorem Derives.isLine
    {level : Level}
    {letters : List Letter}
    {calculation : Calculation}
    (derives : Derives level letters calculation) :
    Says (characters letters) calculation := by
  have sum : Derives .sum letters calculation := by
    cases level with
    | sum => exact derives
    | product => exact .product derives
    | operand => exact .product (.operand derives)
  have line : Line ([] ++ letters ++ []) calculation :=
    .intro blanks_nil sum blanks_nil
  rw [List.nil_append, List.append_nil] at line
  exact ⟨letters, line, rfl⟩

/-- Some letters that stand together among others say the calculation. -/
def SaidWithin (letters : List Letter) (calculation : Calculation) : Prop :=
  ∃ inner, inner <:+: letters ∧ Says (characters inner) calculation

/-- What is said within some letters is said within all letters around them. -/
theorem SaidWithin.mono
    {inner letters : List Letter}
    {calculation : Calculation}
    (isSaid : SaidWithin inner calculation)
    (isInfix : inner <:+: letters) :
    SaidWithin letters calculation := by
  obtain ⟨innermost, within, meaning⟩ := isSaid
  exact ⟨innermost, within.trans isInfix, meaning⟩

/-- A part of an operation is the operation, or is said within one of its
operands. -/
theorem saidWithin_binary
    {left before behind right : List Letter}
    {sign : Letter}
    {operator : Operator}
    {first second part : Calculation}
    (meaning : Says (characters (left ++ before ++ sign :: (behind ++ right)))
      (.binary operator first second))
    (ofFirst : part.IsPartOf first → SaidWithin left part)
    (ofSecond : part.IsPartOf second → SaidWithin right part)
    (isPart : part.IsPartOf (.binary operator first second)) :
    SaidWithin (left ++ before ++ sign :: (behind ++ right)) part := by
  cases isPart with
  | whole => exact ⟨_, List.infix_refl _, meaning⟩
  | left isPart =>
      apply (ofFirst isPart).mono
      exact ⟨[], before ++ sign :: (behind ++ right), by simp⟩
  | right isPart =>
      apply (ofSecond isPart).mono
      exact ⟨left ++ before ++ sign :: behind, [], by simp⟩

/-- A part of what is derived is said by letters that stand together. -/
theorem Derives.saidWithin
    {level : Level}
    {letters : List Letter}
    {part calculation : Calculation}
    (derives : Derives level letters calculation)
    (isPart : part.IsPartOf calculation) :
    SaidWithin letters part := by
  induction derives with
  | product _ inductionHypothesis => exact inductionHypothesis isPart
  | operand _ inductionHypothesis => exact inductionHypothesis isPart
  | additive operator first blanksBefore isSign blanksBehind second
      firstHypothesis secondHypothesis =>
      have derives := Derives.additive operator first blanksBefore isSign
        blanksBehind second
      exact saidWithin_binary derives.isLine firstHypothesis secondHypothesis
        isPart
  | multiplicative operator first blanksBefore isSign blanksBehind second
      firstHypothesis secondHypothesis =>
      have derives := Derives.multiplicative operator first blanksBefore isSign
        blanksBehind second
      exact saidWithin_binary derives.isLine firstHypothesis secondHypothesis
        isPart
  | numeral isNumeral =>
      cases isPart with
      | whole => exact ⟨_, List.infix_refl _, (Derives.numeral isNumeral).isLine⟩
  | group _ _ _ _ _ inductionHypothesis =>
      apply (inductionHypothesis isPart).mono
      apply List.infix_cons
      exact (List.infix_append ..).trans (List.prefix_append ..).isInfix
  | plus _ _ _ inductionHypothesis =>
      apply (inductionHypothesis isPart).mono
      exact List.infix_cons (List.suffix_append ..).isInfix
  | minus isSign areBlanks isOperand inductionHypothesis =>
      cases isPart with
      | whole =>
          have derives := Derives.minus isSign areBlanks isOperand
          exact ⟨_, List.infix_refl _, derives.isLine⟩
      | negate isPart =>
          apply (inductionHypothesis isPart).mono
          exact List.infix_cons (List.suffix_append ..).isInfix

/-- A part of what a line says is said by characters that stand together in the
line. -/
theorem Says.exists_infix
    {line : List Char}
    {part calculation : Calculation}
    (meaning : Says line calculation)
    (isPart : part.IsPartOf calculation) :
    ∃ text, text <:+: line ∧ Says text part := by
  obtain ⟨_, ⟨_, derives, _⟩, rfl⟩ := meaning
  obtain ⟨inner, isInfix, innerMeaning⟩ :=
    (derives.saidWithin isPart).mono ⟨_, _, rfl⟩
  exact ⟨characters inner, isInfix.map Letter.character, innerMeaning⟩

end Grammar
end CalculatorTrials
