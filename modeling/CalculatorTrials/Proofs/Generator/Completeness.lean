import CalculatorTrials.Generator
import CalculatorTrials.Proofs.Entropy.Draw
import CalculatorTrials.Proofs.Expression.Nesting

/-!
# Completeness of generators

If neither groups nor exponents always come up, a generator can draw every
derivation whose numbers are none too large and whose groups nest no deeper than
it admits. The bytes for a derivation are found along the derivation. What is
drawn from them does not depend on the bytes behind them.
-/

namespace CalculatorTrials
namespace Generator

/-! ## Literals -/

theorem canGive_exponent
    (marker : Marker)
    {size : Nat}
    (le : size ≤ 10) :
    exponent.CanGive (marker, size) := by
  have isMarker : marker ∈
      [.lower, .upper, .lowerPlus, .lowerMinus, .upperPlus, .upperMinus] := by
    cases marker <;> decide
  refine (Draw.canGive_choose (by decide) isMarker).bind ?_
  refine (Draw.canGive_between (by decide) (Nat.zero_le size) le).bind ?_
  exact Draw.canGive_pure _

theorem canGive_literal
    {generator : Generator}
    (optional : 2 ≤ generator.exponentOdds)
    {number : Literal}
    (inRange : number.InRange) :
    generator.literal.CanGive number := by
  obtain ⟨sign, whole, fraction, exponents⟩ := number
  have isSign : sign ∈ [.unsigned, .plus, .minus] := by
    cases sign <;> decide
  refine (Draw.canGive_choose (by decide) isSign).bind ?_
  refine (Draw.canGive_between (by decide) (Nat.zero_le whole)
    inRange.whole_le).bind ?_
  refine (Draw.canGive_between (by decide) (Nat.zero_le fraction)
    inRange.fraction_le).bind ?_
  cases exponents with
  | none =>
      refine (Draw.canGive_oneIn optional false).bind ?_
      exact Draw.canGive_pure _
  | some marked =>
      obtain ⟨marker, size⟩ := marked
      refine (Draw.canGive_oneIn optional true).bind ?_
      refine (canGive_exponent marker (inRange.size_le marker size rfl)).bind ?_
      exact Draw.canGive_pure _

/-! ## Derivations -/

/-- How a derivation can be drawn where groups may nest to a depth: a primary is
drawn, and a term or an expression is drawn as the start of a chain, so that all
that the chain can become can be drawn. -/
def Reaches
    (generator : Generator)
    (room : Nat) : Derivation rule → Prop :=
  match rule with
  | .primary => fun primary => (generator.primary room).CanGive primary
  | .term => fun term => ∀ longer,
      (Draw.chain .product (Draw.choose .mul [.div]) (generator.primary room)
        term).CanGive longer →
      (termOf (generator.primary room)).CanGive longer
  | .expression => fun expression => ∀ longer,
      (Draw.chain .sum (Draw.choose .add [.sub])
        (termOf (generator.primary room)) expression).CanGive longer →
      (expressionOf (termOf (generator.primary room))).CanGive longer

/-- A term that is the start of a chain can be drawn, as the chain can end. -/
theorem Reaches.canGive_term
    {generator : Generator}
    {term : Derivation .term}
    (reaches : generator.Reaches room term) :
    (termOf (generator.primary room)).CanGive term :=
  reaches term (Draw.canGive_chain ..)

/-- An expression that is the start of a chain can be drawn. -/
theorem Reaches.canGive_expression
    {generator : Generator}
    {expression : Derivation .expression}
    (reaches : generator.Reaches room expression) :
    (expressionOf (termOf (generator.primary room))).CanGive expression :=
  reaches expression (Draw.canGive_chain ..)

/-- A derivation is drawn where its groups have room. -/
theorem reaches_of_nesting_le
    {generator : Generator}
    (groupsOptional : 2 ≤ generator.groupOdds)
    (exponentsOptional : 2 ≤ generator.exponentOdds)
    {derivation : Derivation rule}
    {room : Nat}
    (nesting_le : derivation.nesting ≤ room)
    (inRange : derivation.InRange) :
    generator.Reaches room derivation := by
  induction derivation generalizing room with
  | literal number =>
      have gives := (canGive_literal exponentsOptional
        (inRange number (List.mem_singleton_self number))).map
          Derivation.literal
      cases room with
      | zero => exact gives
      | succ room => exact (Draw.canGive_oneIn groupsOptional false).bind gives
  | group body inductionHypothesis =>
      cases room with
      | zero => cases nesting_le
      | succ room =>
          have gives := (inductionHypothesis (Nat.le_of_succ_le_succ nesting_le)
            inRange).canGive_expression.map Derivation.group
          exact (Draw.canGive_oneIn groupsOptional true).bind gives
  | factor primary inductionHypothesis =>
      intro longer gives
      exact Draw.CanGive.bind (inductionHypothesis nesting_le inRange) gives
  | product left operator right leftHypothesis rightHypothesis =>
      intro longer gives
      obtain ⟨leftRange, rightRange⟩ := List.forall_mem_append.mp inRange
      obtain ⟨leftLe, rightLe⟩ := Nat.max_le.mp nesting_le
      have isOperator : operator ∈ [.mul, .div] := by cases operator <;> decide
      exact leftHypothesis leftLe leftRange longer
        (.chain (Draw.canGive_choose (by decide) isOperator)
          (rightHypothesis rightLe rightRange) gives)
  | summand term inductionHypothesis =>
      intro longer gives
      exact Draw.CanGive.bind
        (inductionHypothesis nesting_le inRange).canGive_term gives
  | sum left operator right leftHypothesis rightHypothesis =>
      intro longer gives
      obtain ⟨leftRange, rightRange⟩ := List.forall_mem_append.mp inRange
      obtain ⟨leftLe, rightLe⟩ := Nat.max_le.mp nesting_le
      have isOperator : operator ∈ [.add, .sub] := by cases operator <;> decide
      exact leftHypothesis leftLe leftRange longer
        (.chain (Draw.canGive_choose (by decide) isOperator)
          (rightHypothesis rightLe rightRange).canGive_term gives)

/-- A rule draws every derivation from it for which there is room. -/
theorem canGive_derive
    {generator : Generator}
    (groupsOptional : 2 ≤ generator.groupOdds)
    (exponentsOptional : 2 ≤ generator.exponentOdds)
    {derivation : Derivation rule}
    (nesting_le : derivation.nesting ≤ generator.maxDepth)
    (inRange : derivation.InRange) :
    (generator.derive rule).CanGive derivation := by
  have reaches := reaches_of_nesting_le groupsOptional exponentsOptional
    nesting_le inRange
  cases rule with
  | primary => exact reaches
  | term => exact reaches.canGive_term
  | expression => exact reaches.canGive_expression

end Generator

/-- Every derivation whose groups nest no deeper than a generator admits, and
whose numbers are none too large, is drawn from some bytes, and all of them are
read. With any others behind them it is drawn as well, and just the others are
left. -/
theorem exists_bytes_of_derivation
    {generator : Generator}
    (groupsOptional : 2 ≤ generator.groupOdds)
    (exponentsOptional : 2 ≤ generator.exponentOdds)
    {rule : Rule}
    {derivation : Derivation rule}
    (nesting_le : derivation.nesting ≤ generator.maxDepth)
    (inRange : derivation.InRange) :
    ∃ bytes,
      (generator.derive rule).run bytes = (derivation, []) ∧
        ∀ later,
          (generator.derive rule).run (bytes ++ later) =
            (derivation, later) := by
  obtain ⟨bytes, run⟩ := Generator.canGive_derive groupsOptional
    exponentsOptional nesting_le inRange
  refine ⟨bytes, ?_, run⟩
  rw [← run [], List.append_nil]

/-- The bytes of a group with an exponent in it, in the default setting. -/
theorem exists_bytes_of_group :
    ∃ bytes,
      ((({} : Generator).derive .primary).run bytes =
        (.group (.summand (.factor (.literal
          ⟨.minus, 10, 999, some (.lowerMinus, 10)⟩))), [])) ∧
        ∀ later,
          (({} : Generator).derive .primary).run (bytes ++ later) =
            (.group (.summand (.factor (.literal
              ⟨.minus, 10, 999, some (.lowerMinus, 10)⟩))), later) := by
  refine exists_bytes_of_derivation (by decide) (by decide) (by decide) ?_
  refine List.forall_mem_singleton.mpr ⟨by decide, by decide, ?_⟩
  rintro _ _ ⟨⟩
  decide

end CalculatorTrials
