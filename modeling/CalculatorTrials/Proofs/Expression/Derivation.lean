import CalculatorTrials.Expression.Observer
import CalculatorTrials.Generator
import CalculatorTrials.Proofs.Evaluation
import CalculatorTrials.Proofs.Expression.Literal
import CalculatorTrials.Proofs.Generator.Watched

/-!
# Evaluation of generated expressions

The text of a derivation is a line of the grammar that says what the derivation
stands for, so evaluating the text gives the outcome of the derivation. A literal
is an operand, and every rule of test cases is a level of the grammar of lines. The
outcome of a derivation is what arithmetic makes of its literals.
-/

namespace CalculatorTrials

open Grammar

/-- The level of the grammar of lines that a rule belongs to. -/
def Rule.level : Rule → Level
  | .expression => .sum
  | .term => .product
  | .primary => .operand

namespace Derivation

/-- The calculation that a derivation stands for. -/
def calculation : Derivation rule → Calculation
  | literal number =>
      match number.sign with
      | .unsigned | .plus => .number number.unsigned
      | .minus => .negate (.number number.unsigned)
  | group body => body.calculation
  | factor primary => primary.calculation
  | product left operator right =>
      .binary (.multiplicative operator) left.calculation right.calculation
  | summand term => term.calculation
  | sum left operator right =>
      .binary (.additive operator) left.calculation right.calculation

/-- A derivation has the outcome of its calculation. -/
theorem outcome_calculation (derivation : Derivation rule) :
    derivation.calculation.outcome = derivation.outcome := by
  induction derivation with
  | literal number =>
      rw [calculation, outcome, Literal.outcome]
      cases number.sign <;> rfl
  | group body inductionHypothesis => exact inductionHypothesis
  | factor primary inductionHypothesis => exact inductionHypothesis
  | product left operator right leftHypothesis rightHypothesis =>
      rw [calculation, Calculation.outcome, leftHypothesis, rightHypothesis,
        outcome]
  | summand term inductionHypothesis => exact inductionHypothesis
  | sum left operator right leftHypothesis rightHypothesis =>
      rw [calculation, Calculation.outcome, leftHypothesis, rightHypothesis,
        outcome]

/-! ## Texts of derivations -/

/-- A literal is an operand: a numeral, behind a sign if it has one. -/
theorem exists_derives_literal (number : Literal) :
    ∃ letters,
      characters letters = (literal number).text ∧
        Derives .operand letters (literal number).calculation := by
  obtain ⟨letters, text, isNumeral⟩ := number.exists_numeral
  have written : (literal number).text =
      number.sign.text ++ characters letters := by
    rw [Derivation.text, events_literal, number.text_events, text]
  rw [written, calculation]
  cases number.sign with
  | unsigned => exact ⟨letters, rfl, .numeral isNumeral⟩
  | plus =>
      have derives : Derives .operand (.plus :: ([] ++ letters)) _ :=
        .plus rfl blanks_nil (.numeral isNumeral)
      exact ⟨.plus :: letters, rfl, derives⟩
  | minus =>
      have derives : Derives .operand (.minus :: ([] ++ letters)) _ :=
        .minus rfl blanks_nil (.numeral isNumeral)
      exact ⟨.minus :: letters, rfl, derives⟩

/-- The text of a derivation belongs to the level of its rule. -/
theorem exists_derives (derivation : Derivation rule) :
    ∃ letters,
      characters letters = derivation.text ∧
        Derives rule.level letters derivation.calculation := by
  induction derivation with
  | literal number => exact exists_derives_literal number
  | group body inductionHypothesis =>
      obtain ⟨letters, text, derives⟩ := inductionHypothesis
      have group : Derives .operand
          (.opening :: ([] ++ letters ++ [] ++ [.closing])) _ :=
        .group rfl blanks_nil derives blanks_nil rfl
      refine ⟨_, ?_, group⟩
      simp [Derivation.text, Event.text, text, Letter.opening, Letter.closing]
  | factor primary inductionHypothesis =>
      obtain ⟨letters, text, derives⟩ := inductionHypothesis
      exact ⟨letters, text, .operand derives⟩
  | product left operator right leftHypothesis rightHypothesis =>
      obtain ⟨front, frontText, first⟩ := leftHypothesis
      obtain ⟨back, backText, second⟩ := rightHypothesis
      have product : Derives .product
          (front ++ [] ++
            .ofOperator (.multiplicative operator) :: ([] ++ back)) _ :=
        .multiplicative operator first blanks_nil rfl blanks_nil second
      refine ⟨_, ?_, product⟩
      simp [Derivation.text, Event.text, frontText, backText, Letter.ofOperator]
  | summand term inductionHypothesis =>
      obtain ⟨letters, text, derives⟩ := inductionHypothesis
      exact ⟨letters, text, .product derives⟩
  | sum left operator right leftHypothesis rightHypothesis =>
      obtain ⟨front, frontText, first⟩ := leftHypothesis
      obtain ⟨back, backText, second⟩ := rightHypothesis
      have sum : Derives .sum
          (front ++ [] ++
            .ofOperator (.additive operator) :: ([] ++ back)) _ :=
        .additive operator first blanks_nil rfl blanks_nil second
      refine ⟨_, ?_, sum⟩
      simp [Derivation.text, Event.text, frontText, backText, Letter.ofOperator]

/-- What any rule derives is a line, and says the calculation. -/
theorem says_text (derivation : Derivation rule) :
    Says derivation.text derivation.calculation := by
  obtain ⟨letters, text, derives⟩ := derivation.exists_derives
  rw [← text]
  exact derives.isLine

/-! ## Chains -/

/-- The first term of an expression, and the others behind their operators. -/
def terms :
    Derivation .expression →
      Derivation .term × List (Additive × Derivation .term)
  | summand term => (term, [])
  | sum left operator right =>
      (left.terms.1, left.terms.2 ++ [(operator, right)])

/-- The first primary of a term, and the others behind their operators. -/
def primaries :
    Derivation .term →
      Derivation .primary × List (Multiplicative × Derivation .primary)
  | factor primary => (primary, [])
  | product left operator right =>
      (left.primaries.1, left.primaries.2 ++ [(operator, right)])

/-- An expression is evaluated from its first term on, to the right. -/
theorem outcome_eq_foldl_terms : (expression : Derivation .expression) →
    expression.outcome =
      expression.terms.2.foldl
        (fun total (operator, term) =>
          (Operator.additive operator).combine total term.outcome)
        expression.terms.1.outcome
  | summand term => by simp [outcome, terms]
  | sum left operator right => by
      rw [outcome, terms, List.foldl_append, ← outcome_eq_foldl_terms left]
      rfl

/-- A term is evaluated from its first primary on, to the right. -/
theorem outcome_eq_foldl_primaries : (term : Derivation .term) →
    term.outcome =
      term.primaries.2.foldl
        (fun total (operator, primary) =>
          (Operator.multiplicative operator).combine total primary.outcome)
        term.primaries.1.outcome
  | factor primary => by simp [outcome, primaries]
  | product left operator right => by
      rw [outcome, primaries, List.foldl_append,
        ← outcome_eq_foldl_primaries left]
      rfl

end Derivation

/-! ## Texts that are written down -/

namespace Observer

theorem foldl_push (characters : List Char) (written : String) :
    characters.foldl String.push written =
      written ++ String.ofList characters := by
  induction characters generalizing written with
  | nil => simp
  | cons character characters inductionHypothesis =>
      rw [List.foldl_cons, inductionHypothesis]
      simp [String.ext_iff]

/-- The observer of the text writes down the characters of all events. -/
theorem observe_text (events : List Event) :
    text.observe events = String.ofList (events.flatMap Event.text) := by
  suffices steps : ∀ written,
      events.foldl text.step written =
        written ++ String.ofList (events.flatMap Event.text) by
    rw [observe, steps]
    exact String.empty_append
  induction events with
  | nil => simp
  | cons event events inductionHypothesis =>
      intro written
      rw [List.foldl_cons, inductionHypothesis]
      simp [text, foldl_push, String.ext_iff]

end Observer

/-- A line says what a derivation stands for, so the text of the derivation has
the outcome of the derivation. -/
theorem evaluate_text (derivation : Derivation rule) :
    evaluate (String.ofList derivation.text) = .ok derivation.outcome := by
  rw [← derivation.outcome_calculation]
  exact evaluate_of_meaning derivation.says_text

/-! ## Outcomes of derivations -/

namespace Derivation

/-- A derivation yields an outcome: a literal the number of its text, with the
opposite sign behind a minus sign, a group what stands in it, and operands what
their operator yields. -/
inductive Yields : {rule : Rule} → Derivation rule → Outcome → Prop where
  | literal {literal : Literal} {number : Float} :
      Binary64.parse? literal.unsignedText = some number →
      Yields (.literal literal)
        (.value (if literal.sign = .minus then -number else number))
  | group {body : Derivation .expression} {result : Outcome} :
      Yields body result →
      Yields (.group body) result
  | factor {primary : Derivation .primary} {result : Outcome} :
      Yields primary result →
      Yields (.factor primary) result
  | product {left : Derivation .term} {operator : Multiplicative}
      {right : Derivation .primary} {first second result : Outcome} :
      Yields left first →
      Yields right second →
      Operator.Yields (.multiplicative operator) first second result →
      Yields (.product left operator right) result
  | summand {term : Derivation .term} {result : Outcome} :
      Yields term result →
      Yields (.summand term) result
  | sum {left : Derivation .expression} {operator : Additive}
      {right : Derivation .term} {first second result : Outcome} :
      Yields left first →
      Yields right second →
      Operator.Yields (.additive operator) first second result →
      Yields (.sum left operator right) result

/-- A literal is evaluated to the number that its text without the sign denotes,
or to the opposite number behind a minus sign. -/
theorem outcome_literal (number : Literal) :
    ∃ value, Binary64.parse? number.unsignedText = some value ∧
      (literal number).outcome =
        .value (if number.sign = .minus then -value else value) := by
  refine ⟨number.unsigned.toFloat, number.parse?_unsignedText, ?_⟩
  rw [outcome, Literal.outcome]
  cases number.sign <;> rfl

/-- A derivation yields its outcome. -/
theorem yields_outcome (derivation : Derivation rule) :
    derivation.Yields derivation.outcome := by
  induction derivation with
  | literal number =>
      obtain ⟨value, reads, same⟩ := outcome_literal number
      rw [same]
      exact .literal reads
  | group body inductionHypothesis => exact .group inductionHypothesis
  | factor primary inductionHypothesis => exact .factor inductionHypothesis
  | product left operator right leftHypothesis rightHypothesis =>
      exact .product leftHypothesis rightHypothesis
        (Operator.yields_combine _ _ _)
  | summand term inductionHypothesis => exact .summand inductionHypothesis
  | sum left operator right leftHypothesis rightHypothesis =>
      exact .sum leftHypothesis rightHypothesis (Operator.yields_combine _ _ _)

/-- A derivation yields nothing but its outcome. -/
theorem Yields.outcome_eq
    {derivation : Derivation rule}
    {outcome : Outcome}
    (yields : derivation.Yields outcome) :
    derivation.outcome = outcome := by
  induction yields with
  | @literal number value reads =>
      obtain ⟨other, otherReads, same⟩ := outcome_literal number
      rw [reads] at otherReads
      rw [same, Option.some.inj otherReads]
  | group _ inductionHypothesis => exact inductionHypothesis
  | factor _ inductionHypothesis => exact inductionHypothesis
  | product _ _ arithmetic leftHypothesis rightHypothesis =>
      rw [Derivation.outcome, leftHypothesis, rightHypothesis]
      exact arithmetic.combine_eq
  | summand _ inductionHypothesis => exact inductionHypothesis
  | sum _ _ arithmetic leftHypothesis rightHypothesis =>
      rw [Derivation.outcome, leftHypothesis, rightHypothesis]
      exact arithmetic.combine_eq

end Derivation

/-- Whatever is drawn, by any rule and in any setting, its text is evaluated to
its own outcome, and that is just what it yields by the rules of arithmetic: chains
are evaluated from the left by what their operators yield, a group is what stands
in it, a literal is the number that is written, and there is no number exactly if
some divisor is zero. -/
theorem evaluate_observe_text_derive
    (generator : Generator)
    (rule : Rule)
    (bytes : List UInt8) :
    let derivation := ((generator.derive rule).run bytes).1
    let text := Observer.text.observe derivation.events
    ((generator.watch .text rule).run bytes).1 = text ∧
      evaluate text = .ok derivation.outcome ∧
      (∀ outcome, evaluate text = .ok outcome ↔ derivation.Yields outcome) ∧
      (derivation.outcome = .divisionByZero ↔
        derivation.calculation.DividesByZero) ∧
      (∀ expression : Derivation .expression,
        expression.outcome =
          expression.terms.2.foldl
            (fun total (operator, term) =>
              (Operator.additive operator).combine total term.outcome)
            expression.terms.1.outcome) ∧
      (∀ term : Derivation .term,
        term.outcome =
          term.primaries.2.foldl
            (fun total (operator, primary) =>
              (Operator.multiplicative operator).combine total primary.outcome)
            term.primaries.1.outcome) ∧
      (∀ (operator : Operator) (left right outcome : Outcome),
        operator.combine left right = outcome ↔
          operator.Yields left right outcome) ∧
      (∀ body : Derivation .expression,
        (Derivation.group body).outcome = body.outcome) ∧
      ∀ literal : Literal,
        ∃ number, Binary64.parse? literal.unsignedText = some number ∧
          (Derivation.literal literal).outcome =
            .value (if literal.sign = .minus then -number else number) := by
  intro derivation text
  have evaluates : evaluate text = .ok derivation.outcome := by
    unfold text
    rw [Observer.observe_text]
    exact evaluate_text derivation
  refine ⟨?_, evaluates, ?_, ?_, Derivation.outcome_eq_foldl_terms,
    Derivation.outcome_eq_foldl_primaries, ?_, ?_, Derivation.outcome_literal⟩
  · rw [generator.run_watch]
  · intro outcome
    rw [evaluates, Except.ok.injEq]
    constructor
    · rintro rfl
      exact derivation.yields_outcome
    · exact Derivation.Yields.outcome_eq
  · rw [← derivation.outcome_calculation]
    exact Calculation.outcome_eq_divisionByZero_iff _
  · intro operator left right outcome
    exact (operator.yields_iff left right outcome).symm
  · intro body
    rw [Derivation.outcome]

end CalculatorTrials
