import CalculatorTrials.Proofs.Case.Iterator
import CalculatorTrials.Proofs.Entropy.Agreement
import CalculatorTrials.Proofs.Generator.Soundness

/-!
# Depths that are not reached

The depth to which groups can nest decides at that depth alone: a primary there
is a literal, and no chance of a group is drawn. So where groups nest less deep,
it does not matter how deep they could nest, as long as they could nest deeper.
-/

namespace CalculatorTrials
namespace Generator

variable {depth : Nat}

/-! ## Chains -/

theorem agreeWhere_termOf
    {first second : Draw (Derivation .primary)}
    (agree : Draw.AgreeWhere (·.nesting < depth) first second) :
    Draw.AgreeWhere (·.nesting < depth) (termOf first) (termOf second) := by
  unfold termOf
  refine agree.chainFrom ?_ ?_ _
  · exact fun left operator right lt => Nat.max_lt.mp lt
  · exact fun first lt => lt

theorem agreeWhere_expressionOf
    {first second : Draw (Derivation .term)}
    (agree : Draw.AgreeWhere (·.nesting < depth) first second) :
    Draw.AgreeWhere (·.nesting < depth)
      (expressionOf first) (expressionOf second) := by
  unfold expressionOf
  refine agree.chainFrom ?_ ?_ _
  · exact fun left operator right lt => Nat.max_lt.mp lt
  · exact fun first lt => lt

/-! ## Rules -/

/-- A primary is drawn in the same way with more room, where its groups nest less
deep than there is room for. -/
theorem agreeWhere_primary
    (generator : Generator)
    {room more : Nat}
    (le : room ≤ more) :
    Draw.AgreeWhere (·.nesting < room)
      (generator.primary room) (generator.primary more) := by
  induction room generalizing more with
  | zero =>
      intro bytes below
      exact absurd below (by simp)
  | succ room inductionHypothesis =>
      obtain ⟨extra, rfl⟩ := Nat.exists_eq_add_of_le' le
      have bodies := agreeWhere_expressionOf (agreeWhere_termOf
        (inductionHypothesis (Nat.le_add_left room extra)))
      -- both draw the chance of a group, from the same bytes
      refine Draw.agreeWhere_bind (fun isGroup => ?_) _
      cases isGroup with
      | true => exact bodies.map fun _ lt => Nat.lt_of_succ_lt_succ lt
      | false => exact Draw.agreeWhere_refl _ _

/-- A primary in some room does not depend on how deep groups can nest elsewhere. -/
theorem primary_withMaxDepth
    (generator : Generator)
    (maxDepth room : Nat) :
    ({ generator with maxDepth } : Generator).primary room =
      generator.primary room := by
  induction room with
  | zero => rfl
  | succ room inductionHypothesis =>
      rw [primary, inductionHypothesis, primary]
      rfl

theorem agreeWhere_derive
    (generator : Generator)
    {deeper : Nat}
    (le : generator.maxDepth ≤ deeper)
    (rule : Rule) :
    Draw.AgreeWhere (·.nesting < generator.maxDepth)
      (generator.derive rule)
      (({ generator with maxDepth := deeper } : Generator).derive rule) := by
  have primaries := generator.agreeWhere_primary le
  rw [← generator.primary_withMaxDepth deeper deeper] at primaries
  cases rule with
  | primary => exact primaries
  | term => exact agreeWhere_termOf primaries
  | expression => exact agreeWhere_expressionOf (agreeWhere_termOf primaries)

end Generator

/-- Where groups nest less deep than they can, before or after the depth to which
they can nest is raised, a run draws the same and leaves the same bytes, and every
observer is shown the same. So the cases of a seed that are changed by raising the
depth are among those whose groups nested as deep as they could. -/
theorem depth_matters_where_reached
    (generator : Generator)
    {deeper : Nat}
    (le : generator.maxDepth ≤ deeper) :
    let raised : Generator := { generator with maxDepth := deeper }
    (∀ (rule : Rule) (bytes : List UInt8),
      let run := (generator.derive rule).run bytes
      let other := (raised.derive rule).run bytes
      run.1.nesting < generator.maxDepth ∨
          other.1.nesting < generator.maxDepth →
        run = other ∧
          ∀ (State : Type) (observer : Observer State),
            (generator.watch observer rule).run bytes =
              (raised.watch observer rule).run bytes) ∧
    ∀ (State : Type) (observer : Observer State) (seed : UInt64)
      (index : Nat),
      ((generator.iterate observer seed).skip index).next.1 ≠
          ((raised.iterate observer seed).skip index).next.1 →
        let origin := KeyStream.origin seed
        (generator.caseAt origin index).nesting = generator.maxDepth ∧
          generator.maxDepth ≤ (raised.caseAt origin index).nesting := by
  intro raised
  refine ⟨?_, ?_⟩
  · intro rule bytes run other below
    have same : run = other := generator.agreeWhere_derive le rule bytes below
    refine ⟨same, fun State observer => ?_⟩
    rw [generator.run_watch, raised.run_watch]
    exact congrArg (fun result => (observer.observe result.1.events, result.2))
      same
  · intro State observer seed index changed origin
    have first := (CaseIterator.at_iterate generator observer seed).skip index
    have second := (CaseIterator.at_iterate raised observer seed).skip index
    rw [first.next.1, second.next.1, Nat.zero_add] at changed
    have notBelow : ¬((generator.caseAt origin index).nesting <
          generator.maxDepth ∨
        (raised.caseAt origin index).nesting < generator.maxDepth) := by
      intro below
      apply changed
      rw [generator.caseAt_eq, raised.caseAt_eq] at below ⊢
      rw [generator.agreeWhere_derive le .expression _ below]
    have fits : (generator.caseAt origin index).nesting ≤
        generator.maxDepth := by
      rw [generator.caseAt_eq]
      exact (generator.ensures_derive .expression _).nesting_le
    obtain ⟨reached, otherReached⟩ := not_or.mp notBelow
    exact ⟨Nat.le_antisymm fits (Nat.le_of_not_lt reached),
      Nat.le_of_not_lt otherReached⟩

/-- A group is drawn in the same way where two groups and where five can nest. -/
theorem depth_matters_where_reached_of_group :
    let bytes : List UInt8 := [9, 0, 1, 1, 3, 232, 0, 0, 0, 0, 0, 5]
    let two : Generator := { maxDepth := 2 }
    let five : Generator := { maxDepth := 5 }
    ((two.derive .primary).run bytes).1.nesting = 1 ∧
      (two.derive .primary).run bytes = (five.derive .primary).run bytes := by
  intro bytes two five
  have nests : ((two.derive .primary).run bytes).1.nesting = 1 := by
    decide +kernel
  have below : ((two.derive .primary).run bytes).1.nesting < 2 := by
    rw [nests]
    decide
  obtain ⟨runs, _⟩ := depth_matters_where_reached two
    (by decide : two.maxDepth ≤ 5)
  exact ⟨nests, (runs .primary bytes (.inl below)).1⟩

end CalculatorTrials
