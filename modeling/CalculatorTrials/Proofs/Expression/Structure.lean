import CalculatorTrials.Case
import CalculatorTrials.Proofs.Expression.Derivation
import CalculatorTrials.Proofs.Expression.Text
import CalculatorTrials.Proofs.Generator.Watched

/-!
# Expressions known from their texts

A derivation can be built again from its events, one after another: the chains of
the innermost group go on, and those of the groups around it are kept for later.
So no two derivations from one rule have the same events, and as a text tells its
events, it tells the derivation and all that any observer sees of it.
-/

namespace CalculatorTrials

/-! ## Building a derivation -/

/-- The chains that go on in a group: the terms so far with the operator behind
them, and the primaries so far of the last term. -/
structure OpenChains where
  terms : Option (Derivation .expression × Additive) := none
  primaries : Option (Derivation .term × Multiplicative) := none

namespace OpenChains

/-- The last term, if it ends with a primary. -/
def term (chains : OpenChains) (last : Derivation .primary) : Derivation .term :=
  match chains.primaries with
  | none => .factor last
  | some (left, operator) => .product left operator last

/-- The expression, if it ends with a primary. -/
def expression
    (chains : OpenChains)
    (last : Derivation .primary) : Derivation .expression :=
  match chains.terms with
  | none => .summand (chains.term last)
  | some (left, operator) => .sum left operator (chains.term last)

end OpenChains

/-- What is built of a derivation. -/
structure Building where
  /-- The chains of the innermost group. -/
  chains : OpenChains := {}
  /-- The primary that was built last, if it is not yet in a chain. -/
  last : Option (Derivation .primary) := none
  /-- The chains of the groups around, from the inside to the outside. -/
  outer : List OpenChains := []

namespace Building

/-- Change the literal that was built last. -/
def mapLiteral (change : Literal → Literal) (building : Building) : Building :=
  match building.last with
  | some (.literal number) =>
      { building with last := some (.literal (change number)) }
  | _ => building

/-- Build on with the next event. An event that cannot come is passed over. -/
def step (building : Building) : Event → Building
  | .openGroup => { outer := building.chains :: building.outer }
  | .closeGroup =>
      match building.last, building.outer with
      | some last, chains :: outer =>
          { chains, outer
            last := some (.group (building.chains.expression last)) }
      | _, _ => building
  | .operator (.multiplicative operator) =>
      match building.last with
      | some last =>
          { building with
            chains := { building.chains with
              primaries := some (building.chains.term last, operator) }
            last := none }
      | none => building
  | .operator (.additive operator) =>
      match building.last with
      | some last =>
          { building with
            chains := {
              terms := some (building.chains.expression last, operator) }
            last := none }
      | none => building
  | .sign sign => { building with last := some (.literal ⟨sign, 0, 0, none⟩) }
  | .digits whole fraction =>
      building.mapLiteral fun number => { number with whole, fraction }
  | .exponent marker size =>
      building.mapLiteral fun number =>
        { number with exponent := some (marker, size) }

end Building

namespace Derivation

/-- The derivation is built from its events: a primary is the last one, a term
ends the chain of primaries, and an expression ends both chains of its group. -/
def IsBuilt : (derivation : Derivation rule) → Prop :=
  match rule with
  | .primary => fun primary => ∀ building : Building,
      primary.events.foldl Building.step building =
        { building with last := some primary }
  | .term => fun term => ∀ building : Building,
      building.chains.primaries = none →
        ∃ chains last,
          term.events.foldl Building.step building =
              ⟨chains, some last, building.outer⟩ ∧
            chains.terms = building.chains.terms ∧
            chains.term last = term
  | .expression => fun expression => ∀ building : Building,
      building.chains = {} →
        ∃ chains last,
          expression.events.foldl Building.step building =
              ⟨chains, some last, building.outer⟩ ∧
            chains.expression last = expression

theorem isBuilt_literal (number : Literal) :
    (literal number).IsBuilt := by
  intro building
  obtain ⟨sign, whole, fraction, exponents⟩ := number
  rw [events_literal]
  cases exponents <;> rfl

theorem isBuilt_group
    {body : Derivation .expression}
    (isBuilt : body.IsBuilt) :
    (group body).IsBuilt := by
  intro building
  obtain ⟨chains, last, built, complete⟩ :=
    isBuilt (building.step .openGroup) rfl
  rw [events_group, List.foldl_cons, List.foldl_append, built]
  rw [← complete]
  rfl

theorem isBuilt_factor
    {primary : Derivation .primary}
    (isBuilt : primary.IsBuilt) :
    (factor primary).IsBuilt := by
  intro building noPrimaries
  refine ⟨building.chains, primary, isBuilt building, rfl, ?_⟩
  rw [OpenChains.term, noPrimaries]

theorem isBuilt_product
    {left : Derivation .term}
    {right : Derivation .primary}
    (operator : Multiplicative)
    (leftIsBuilt : left.IsBuilt)
    (rightIsBuilt : right.IsBuilt) :
    (product left operator right).IsBuilt := by
  intro building noPrimaries
  obtain ⟨chains, last, built, terms, complete⟩ :=
    leftIsBuilt building noPrimaries
  refine ⟨{ chains with primaries := some (left, operator) }, right, ?_, terms,
    rfl⟩
  rw [events_product, List.foldl_append, built, List.foldl_cons,
    rightIsBuilt, ← complete]
  rfl

theorem isBuilt_summand
    {term : Derivation .term}
    (isBuilt : term.IsBuilt) :
    (summand term).IsBuilt := by
  intro building noChains
  obtain ⟨chains, last, built, terms, complete⟩ :=
    isBuilt building (congrArg OpenChains.primaries noChains)
  refine ⟨chains, last, built, ?_⟩
  rw [OpenChains.expression, terms, noChains, complete]

theorem isBuilt_sum
    {left : Derivation .expression}
    {right : Derivation .term}
    (operator : Additive)
    (leftIsBuilt : left.IsBuilt)
    (rightIsBuilt : right.IsBuilt) :
    (sum left operator right).IsBuilt := by
  intro building noChains
  obtain ⟨chains, last, built, complete⟩ := leftIsBuilt building noChains
  obtain ⟨rightChains, rightLast, rightBuilt, terms, rightComplete⟩ :=
    rightIsBuilt ⟨{ terms := some (left, operator) }, none, building.outer⟩ rfl
  refine ⟨rightChains, rightLast, ?_, ?_⟩
  · rw [events_sum, List.foldl_append, built, List.foldl_cons, ← rightBuilt,
      ← complete]
    rfl
  · rw [OpenChains.expression, terms, rightComplete]

/-- Every derivation is built from its events. -/
theorem isBuilt (derivation : Derivation rule) : derivation.IsBuilt := by
  induction derivation with
  | literal number => exact isBuilt_literal number
  | group body inductionHypothesis => exact isBuilt_group inductionHypothesis
  | factor primary inductionHypothesis =>
      exact isBuilt_factor inductionHypothesis
  | product left operator right leftHypothesis rightHypothesis =>
      exact isBuilt_product operator leftHypothesis rightHypothesis
  | summand term inductionHypothesis => exact isBuilt_summand inductionHypothesis
  | sum left operator right leftHypothesis rightHypothesis =>
      exact isBuilt_sum operator leftHypothesis rightHypothesis

/-- Derivations from one rule with the same events are the same. -/
theorem eq_of_events_eq
    {first second : Derivation rule}
    (same : first.events = second.events) :
    first = second := by
  have firstIsBuilt := first.isBuilt
  have secondIsBuilt := second.isBuilt
  cases rule with
  | primary =>
      have built := firstIsBuilt {}
      rw [same, secondIsBuilt {}] at built
      exact (Option.some.inj (congrArg Building.last built)).symm
  | term =>
      obtain ⟨chains, last, built, _, rfl⟩ := firstIsBuilt {} rfl
      obtain ⟨otherChains, otherLast, otherBuilt, _, rfl⟩ := secondIsBuilt {} rfl
      rw [same, otherBuilt] at built
      cases built
      rfl
  | expression =>
      obtain ⟨chains, last, built, rfl⟩ := firstIsBuilt {} rfl
      obtain ⟨otherChains, otherLast, otherBuilt, rfl⟩ := secondIsBuilt {} rfl
      rw [same, otherBuilt] at built
      cases built
      rfl

/-- Derivations with one text have the same events, whatever rules they are
from. -/
theorem events_eq_of_observe_text_eq
    {first : Derivation rule}
    {second : Derivation other}
    (same : Observer.text.observe first.events =
      Observer.text.observe second.events) :
    first.events = second.events := by
  rw [Observer.observe_text, Observer.observe_text] at same
  exact events_eq_of_text_eq (String.ofList_inj.mp same)

end Derivation

/-- A text is written by one list of events at most, and by one derivation at most
from each rule. So expressions with one text have one shape, whatever settings,
bytes, rules or seeds they were drawn from. -/
theorem eq_of_observe_text_eq :
    (∀ {rule other : Rule}
        (first : Derivation rule) (second : Derivation other),
      Observer.text.observe first.events =
          Observer.text.observe second.events →
        first.events = second.events) ∧
    (∀ {rule : Rule} (first second : Derivation rule),
      Observer.text.observe first.events =
          Observer.text.observe second.events →
        first = second) ∧
    (∀ (generator others : Generator) (rule other : Rule)
        (bytes otherBytes : List UInt8),
      let observer := Observer.text.pair .shape
      let first := ((generator.watch observer rule).run bytes).1
      let second := ((others.watch observer other).run otherBytes).1
      first.1 = second.1 → first.2 = second.2) ∧
    ∀ (generator others : Generator) (seed otherSeed : UInt64)
        (index otherIndex : Nat),
      let first := generator.caseAt (KeyStream.origin seed) index
      let second := others.caseAt (KeyStream.origin otherSeed) otherIndex
      Observer.text.observe first.events =
          Observer.text.observe second.events →
        Observer.shape.observe first.events =
          Observer.shape.observe second.events := by
  refine ⟨fun _ _ => Derivation.events_eq_of_observe_text_eq, ?_, ?_, ?_⟩
  · intro rule first second same
    exact Derivation.eq_of_events_eq
      (Derivation.events_eq_of_observe_text_eq same)
  · intro generator others rule other bytes otherBytes observer first second
    simp only [first, second, observer, Generator.run_watch,
      Observer.observe_pair]
    intro same
    rw [Derivation.events_eq_of_observe_text_eq same]
  · intro generator others seed otherSeed index otherIndex first second same
    rw [Derivation.events_eq_of_observe_text_eq same]

/-- No bytes and three bytes, in different settings, give the same text. -/
theorem eq_of_observe_text_eq_of_zero :
    let observer := Observer.text.pair .shape
    let first := ((({} : Generator).watch observer .expression).run []).1
    let second := ((({ maxDepth := 0, exponentOdds := 3 } : Generator).watch
      observer .primary).run [3, 0, 0]).1
    first.1 = "0.0" ∧ second.1 = "0.0" ∧ first.2 = second.2 := by
  have firstText : ((({} : Generator).watch (Observer.text.pair .shape)
      .expression).run []).1.1 = "0.0" := by
    decide +kernel
  have secondText : ((({ maxDepth := 0, exponentOdds := 3 } : Generator).watch
      (Observer.text.pair .shape) .primary).run [3, 0, 0]).1.1 = "0.0" := by
    decide +kernel
  obtain ⟨_, _, shapes, _⟩ := eq_of_observe_text_eq
  exact ⟨firstText, secondText,
    shapes _ _ _ _ _ _ (firstText.trans secondText.symm)⟩

end CalculatorTrials
