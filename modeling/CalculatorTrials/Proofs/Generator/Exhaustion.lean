import CalculatorTrials.Proofs.Entropy.Exhaustion
import CalculatorTrials.Proofs.Generator.Watched

/-!
# Generating from no bytes

A rule is applied at a depth, the number of groups that are open around it. When
all bytes have been read, it gives the literal zero and nothing beside it, in as
many groups as the settings force open: none where groups need not come up, and
as many as can still nest at its depth where they always do.
-/

namespace CalculatorTrials

/-! ## Literals in groups -/

namespace Derivation

/-- A literal in a number of groups, each of which holds nothing else. -/
def nested (number : Literal) : (groups : Nat) → Derivation .primary
  | 0 => .literal number
  | groups + 1 => .group (.summand (.factor (nested number groups)))

/-- All groups are opened in front of the literal and closed behind it. -/
theorem events_nested (number : Literal) (groups : Nat) :
    (nested number groups).events =
      List.replicate groups .openGroup ++ number.events ++
        List.replicate groups .closeGroup := by
  induction groups with
  | zero => simp [nested]
  | succ groups inductionHypothesis =>
      rw [nested, events_group, events_summand, events_factor,
        inductionHypothesis, List.replicate_succ, List.replicate_succ']
      simp only [List.cons_append, List.append_assoc]

end Derivation

/-- Before an observer a draw falls back as it does without, and the observer is
shown the events. -/
theorem Observer.Watches.fallsBackTo
    {observer : Observer State}
    {draw : Draw α}
    {events : α → List Event}
    {watched : State → Draw State}
    {value : α}
    (watches : observer.Watches draw events watched)
    (fallsBack : draw.FallsBackTo value)
    (state : State) :
    (watched state).FallsBackTo
      ((events value).foldl observer.step state) := by
  unfold Draw.FallsBackTo
  rw [watches, fallsBack]

namespace Generator

/-! ## Rules at a depth -/

/-- Apply a rule at a depth before an observer that is in some state. -/
def watchAt
    (generator : Generator)
    (observer : Observer State)
    (depth : Nat)
    (rule : Rule)
    (state : State) : Draw State :=
  let primary := generator.watchPrimary observer (generator.maxDepth - depth)
  let term := watchTermOf observer primary
  match rule with
  | .primary => primary state
  | .term => term state
  | .expression => watchExpressionOf observer term state

/-- A run applies its rule where no group is open. -/
theorem watchAt_zero
    (generator : Generator)
    (observer : Observer State)
    (rule : Rule) :
    generator.watchAt observer 0 rule observer.start =
      generator.watch observer rule := by
  cases rule <;> rfl

/-- Below the greatest depth a primary may be a group, in which an expression is
one deeper. At that depth and beyond it is a literal. -/
theorem watchAt_primary
    (generator : Generator)
    (observer : Observer State)
    (depth : Nat)
    (state : State) :
    generator.watchAt observer depth .primary state =
      if depth < generator.maxDepth then do
        if ← Draw.oneIn generator.groupOdds then
          let state ← generator.watchAt observer (depth + 1) .expression
            (observer.step state .openGroup)
          return observer.step state .closeGroup
        else generator.watchLiteral observer state
      else generator.watchLiteral observer state := by
  unfold watchAt
  by_cases below : depth < generator.maxDepth
  · have room : generator.maxDepth - depth =
        generator.maxDepth - (depth + 1) + 1 := by omega
    rw [if_pos below, room]
    rfl
  · have room : generator.maxDepth - depth = 0 := by omega
    rw [if_neg below, room]
    rfl

/-- A term is a chain of primaries at its own depth. -/
theorem watchAt_term
    (generator : Generator)
    (observer : Observer State)
    (depth : Nat) :
    generator.watchAt observer depth .term =
      watchTermOf observer (generator.watchAt observer depth .primary) := rfl

/-- An expression is a chain of terms at its own depth. -/
theorem watchAt_expression
    (generator : Generator)
    (observer : Observer State)
    (depth : Nat) :
    generator.watchAt observer depth .expression =
      watchExpressionOf observer (generator.watchAt observer depth .term) := rfl

/-! ## What is drawn from no bytes -/

/-- The literal that is drawn from no bytes. -/
def zeroLiteral (generator : Generator) : Literal where
  sign := .unsigned
  whole := 0
  fraction := 0
  exponent := if generator.exponentOdds ≤ 1 then some (.lower, 0) else none

/-- The number of groups that open from no bytes where so many can nest. -/
def forcedGroups (generator : Generator) (room : Nat) : Nat :=
  if generator.groupOdds ≤ 1 then room else 0

theorem fallsBackTo_exponent : exponent.FallsBackTo (.lower, 0) :=
  (Draw.fallsBackTo_choose _ _).bind
    ((Draw.fallsBackTo_between 1 0 10).bind (Draw.fallsBackTo_pure _))

theorem fallsBackTo_literal (generator : Generator) :
    generator.literal.FallsBackTo generator.zeroLiteral := by
  refine (Draw.fallsBackTo_choose Sign.unsigned _).bind ?_
  refine (Draw.fallsBackTo_between 1 0 10).bind ?_
  refine (Draw.fallsBackTo_between 2 0 999).bind ?_
  refine (Draw.fallsBackTo_oneIn generator.exponentOdds).bind ?_
  unfold zeroLiteral
  by_cases always : generator.exponentOdds ≤ 1
  · rw [decide_eq_true always, if_pos always]
    exact fallsBackTo_exponent.bind (Draw.fallsBackTo_pure _)
  · rw [decide_eq_false always, if_neg always]
    exact Draw.fallsBackTo_pure _

theorem fallsBackTo_termOf
    {primary : Draw (Derivation .primary)}
    {first : Derivation .primary}
    (fallsBack : primary.FallsBackTo first) :
    (termOf primary).FallsBackTo (.factor first) :=
  fallsBack.bind (Draw.fallsBackTo_chain ..)

theorem fallsBackTo_expressionOf
    {term : Draw (Derivation .term)}
    {first : Derivation .term}
    (fallsBack : term.FallsBackTo first) :
    (expressionOf term).FallsBackTo (.summand first) :=
  fallsBack.bind (Draw.fallsBackTo_chain ..)

/-- A primary is the literal in the groups that are forced open. -/
theorem fallsBackTo_primary (generator : Generator) (room : Nat) :
    (generator.primary room).FallsBackTo
      (.nested generator.zeroLiteral (generator.forcedGroups room)) := by
  have literal := generator.fallsBackTo_literal.map Derivation.literal
  unfold forcedGroups
  induction room with
  | zero =>
      rw [ite_self]
      exact literal
  | succ room inductionHypothesis =>
      refine (Draw.fallsBackTo_oneIn generator.groupOdds).bind ?_
      by_cases always : generator.groupOdds ≤ 1
      · -- the only chance comes up, so one group opens around the others
        rw [decide_eq_true always, if_pos always]
        rw [if_pos always] at inductionHypothesis
        exact (fallsBackTo_expressionOf
          (fallsBackTo_termOf inductionHypothesis)).map Derivation.group
      · rw [decide_eq_false always, if_neg always]
        exact literal

end Generator

/-- In every setting and at every depth, a primary, a term and an expression that
are drawn from no bytes show to an observer, whatever its state, the same events:
groups open, then a literal without a sign and with no digit but zero, which has
the exponent zero just if exponents always come up, and the groups close again.
The groups are those that can still nest if groups always come up, and none if
they need not. -/
theorem exhausted_bytes_give_zero
    (generator : Generator)
    (depth : Nat)
    (rule : Rule) :
    let groups :=
      if generator.groupOdds ≤ 1 then generator.maxDepth - depth else 0
    let exponent :=
      if generator.exponentOdds ≤ 1 then [Event.exponent .lower 0] else []
    let events :=
      List.replicate groups .openGroup ++
        (.sign .unsigned :: .digits 0 0 :: exponent) ++
          List.replicate groups .closeGroup
    ∀ (State : Type) (observer : Observer State) (state : State),
      (generator.watchAt observer depth rule state).run [] =
        (events.foldl observer.step state, []) := by
  intro groups exponent events State observer state
  have literal : generator.zeroLiteral.events =
      .sign .unsigned :: .digits 0 0 :: exponent := by
    unfold exponent Literal.events Generator.zeroLiteral
    split <;> rfl
  have told : (Derivation.nested generator.zeroLiteral groups).events =
      events := by
    rw [Derivation.events_nested, literal]
  have primary : (generator.primary (generator.maxDepth - depth)).FallsBackTo
      (.nested generator.zeroLiteral groups) :=
    generator.fallsBackTo_primary _
  have watches :=
    generator.watches_primary observer (generator.maxDepth - depth)
  rw [← told]
  cases rule with
  | primary => exact watches.fallsBackTo primary state
  | term =>
      exact (Generator.watches_termOf watches).fallsBackTo
        (Generator.fallsBackTo_termOf primary) state
  | expression =>
      exact (Generator.watches_expressionOf
        (Generator.watches_termOf watches)).fallsBackTo
          (Generator.fallsBackTo_expressionOf
            (Generator.fallsBackTo_termOf primary)) state

-- groups that always come up open to the greatest depth, exponents as well
example :
    (({ maxDepth := 2, groupOdds := 1, exponentOdds := 1 } : Generator).watch
        .text .term).run [] = ("((0.0e0))", []) := by
  decide +kernel

end CalculatorTrials
