import CalculatorTrials.Expression.Shape
import CalculatorTrials.Generator.Watched

/-!
# Observers of a run

What an observer sees of an expression does not depend on when it sees it: to
watch while the expression is drawn, and to be shown the events of what was
drawn, is the same. As no draw depends on the observer, all observers see the
same events, and a member of a row of observers sees what it sees alone.
-/

namespace CalculatorTrials

/-! ## Rows of observers -/

namespace Observer

/-- The member of a row of observers whose state the function takes out of the
state of the row. A member may itself be a row, to any depth. -/
inductive HasMember :
    {Row Member : Type} →
      Observer Row → Observer Member → (Row → Member) → Prop
  | self (observer : Observer State) : HasMember observer observer id
  | single {first : Observer First} :
      HasMember first member take →
        HasMember first.single member fun state => take state.1
  | firstOfPair {first : Observer First} (second : Observer Second) :
      HasMember first member take →
        HasMember (first.pair second) member fun state => take state.1
  | secondOfPair (first : Observer First) {second : Observer Second} :
      HasMember second member take →
        HasMember (first.pair second) member fun state => take state.2
  | firstOfTriple
      {first : Observer First}
      (second : Observer Second)
      (third : Observer Third) :
      HasMember first member take →
        HasMember (first.triple second third) member fun state => take state.1
  | secondOfTriple
      (first : Observer First)
      {second : Observer Second}
      (third : Observer Third) :
      HasMember second member take →
        HasMember (first.triple second third) member fun state => take state.2.1
  | thirdOfTriple
      (first : Observer First)
      (second : Observer Second)
      {third : Observer Third} :
      HasMember third member take →
        HasMember (first.triple second third) member fun state => take state.2.2

/-- A member of a row has the state that it has alone. -/
theorem HasMember.observe_eq
    {row : Observer Row}
    {member : Observer Member}
    {take : Row → Member}
    (isMember : HasMember row member take)
    (events : List Event) :
    take (row.observe events) = member.observe events := by
  induction isMember with
  | self observer => rfl
  | single _ inductionHypothesis =>
      rw [Observer.single, observe_pair]
      exact inductionHypothesis
  | firstOfPair second _ inductionHypothesis =>
      rw [observe_pair]
      exact inductionHypothesis
  | secondOfPair first _ inductionHypothesis =>
      rw [observe_pair]
      exact inductionHypothesis
  | firstOfTriple second third _ inductionHypothesis =>
      rw [triple, observe_pair]
      exact inductionHypothesis
  | secondOfTriple first third _ inductionHypothesis =>
      rw [triple, observe_pair, observe_pair]
      exact inductionHypothesis
  | thirdOfTriple first second _ inductionHypothesis =>
      rw [triple, observe_pair, observe_pair]
      exact inductionHypothesis

/-! ## Draws that are watched -/

/-- To draw before the observer, from any of its states, is to draw and to show
the events to it, and leaves the same bytes. -/
def Watches
    (observer : Observer State)
    (draw : Draw α)
    (events : α → List Event)
    (watched : State → Draw State) : Prop :=
  ∀ state bytes,
    (watched state).run bytes =
      ((events (draw.run bytes).1).foldl observer.step state,
        (draw.run bytes).2)

namespace Watches

variable {observer : Observer State}

/-- A chain goes on before the observer as it does without. -/
theorem loopFrom_eq
    {operand : Draw β}
    {events : β → List Event}
    {watched : State → Draw State}
    (watches : observer.Watches operand events watched)
    (operator : Draw γ)
    (toOperator : γ → Operator)
    {join : α → γ → β → α}
    {chainEvents : α → List Event}
    (joins : ∀ left symbol right,
      chainEvents (join left symbol right) =
        chainEvents left ++ .operator (toOperator symbol) :: events right)
    (start : State)
    (left : α)
    (bytes : List UInt8) :
    let chain := Draw.extend join operator operand left bytes
    Draw.loopFrom
        (fun state => do
          let symbol ← toOperator <$> operator
          watched (observer.step state (.operator symbol)))
        ((chainEvents left).foldl observer.step start) bytes =
      ((chainEvents chain.1).foldl observer.step start, chain.2) := by
  fun_induction Draw.extend with
  | case1 left bytes goesOn symbol right inductionHypothesis =>
      rw [Draw.loopFrom, dif_pos goesOn]
      simp only [Draw.run_bind, Draw.run_map, watches _ _]
      rw [joins, List.foldl_append, List.foldl_cons] at inductionHypothesis
      exact inductionHypothesis
  | case2 left bytes stops =>
      rw [Draw.loopFrom, dif_neg stops]

/-- A chain of operands that are watched is watched. -/
theorem chain
    {operand : Draw β}
    {events : β → List Event}
    {watched : State → Draw State}
    (watches : observer.Watches operand events watched)
    (operator : Draw γ)
    (toOperator : γ → Operator)
    {link : β → α}
    {join : α → γ → β → α}
    {chainEvents : α → List Event}
    (links : ∀ first, chainEvents (link first) = events first)
    (joins : ∀ left symbol right,
      chainEvents (join left symbol right) =
        chainEvents left ++ .operator (toOperator symbol) :: events right) :
    observer.Watches
      (do
        let first ← operand
        Draw.chain join operator operand (link first))
      chainEvents
      (Generator.watchChain observer (toOperator <$> operator) watched) := by
  intro state bytes
  rw [Generator.watchChain, Draw.run_bind, Draw.run_bind, watches, ← links]
  exact watches.loopFrom_eq operator toOperator joins state _ _

end Watches
end Observer

/-! ## Rules before an observer -/

namespace Generator

variable {observer : Observer State}

/-- A literal is watched: its sign, its digits, and its exponent if it has one. -/
theorem watches_literal (generator : Generator) (observer : Observer State) :
    observer.Watches generator.literal Literal.events
      (generator.watchLiteral observer) := by
  intro state bytes
  simp only [watchLiteral, literal, Draw.run_bind]
  split <;> rfl

theorem watches_termOf
    {primary : Draw (Derivation .primary)}
    {watched : State → Draw State}
    (watches : observer.Watches primary Derivation.events watched) :
    observer.Watches (termOf primary) Derivation.events
      (watchTermOf observer watched) :=
  watches.chain _ _ Derivation.events_factor Derivation.events_product

theorem watches_expressionOf
    {term : Draw (Derivation .term)}
    {watched : State → Draw State}
    (watches : observer.Watches term Derivation.events watched) :
    observer.Watches (expressionOf term) Derivation.events
      (watchExpressionOf observer watched) :=
  watches.chain _ _ Derivation.events_summand Derivation.events_sum

/-- A primary is watched, to any depth of groups. -/
theorem watches_primary
    (generator : Generator)
    (observer : Observer State)
    (room : Nat) :
    observer.Watches (generator.primary room) Derivation.events
      (generator.watchPrimary observer room) := by
  have watchesLiteral : observer.Watches
      (Derivation.literal <$> generator.literal) Derivation.events
      (generator.watchLiteral observer) := by
    intro state bytes
    rw [generator.watches_literal observer, Draw.run_map,
      Derivation.events_literal]
  induction room with
  | zero => exact watchesLiteral
  | succ room inductionHypothesis =>
      have watchesBody := watches_expressionOf
        (watches_termOf inductionHypothesis)
      intro state bytes
      simp only [watchPrimary, primary, Draw.run_bind]
      split
      · rw [Draw.run_bind, Draw.run_map, watchesBody, Derivation.events_group,
          List.foldl_cons, List.foldl_append]
        rfl
      · exact watchesLiteral _ _

/-- What an observer has seen behind a run is what it sees of the events. -/
theorem run_watch
    (generator : Generator)
    (observer : Observer State)
    (rule : Rule)
    (bytes : List UInt8) :
    (generator.watch observer rule).run bytes =
      (observer.observe ((generator.derive rule).run bytes).1.events,
        ((generator.derive rule).run bytes).2) := by
  have watches := generator.watches_primary observer generator.maxDepth
  cases rule with
  | primary => exact watches _ _
  | term => exact watches_termOf watches _ _
  | expression => exact watches_expressionOf (watches_termOf watches) _ _

/-- Several runs from the same bytes, one after another. -/
theorem runs_watch
    (generator : Generator)
    (observer : Observer State)
    (rule : Rule)
    (count : Nat)
    (bytes : List UInt8) :
    (generator.watch observer rule).runs count bytes =
      ((generator.derive rule).runs count bytes).map fun (derivation, rest) =>
        (observer.observe derivation.events, rest) := by
  induction count generalizing bytes with
  | zero => rfl
  | succ count inductionHypothesis =>
      rw [Draw.runs, run_watch, inductionHypothesis]
      rfl

end Generator

/-- In every setting, by every rule, from any bytes and in any number of runs,
there is one list of events for each run, and every observer is shown just these
and sees the same bytes left. So a member of a row of observers, at any depth,
ends as it does alone. -/
theorem runs_watch_eq_map_observe
    (generator : Generator)
    (rule : Rule)
    (count : Nat)
    (bytes : List UInt8) :
    let runs := ((generator.derive rule).runs count bytes).map
      fun (derivation, rest) => (derivation.events, rest)
    runs.length = count ∧
      (∀ (State : Type) (observer : Observer State),
        (generator.watch observer rule).runs count bytes =
          runs.map fun (events, rest) => (observer.observe events, rest)) ∧
      ∀ (Row Member : Type) (row : Observer Row) (member : Observer Member)
        (take : Row → Member), row.HasMember member take →
          ((generator.watch row rule).runs count bytes).map
              (fun (state, rest) => (take state, rest)) =
            (generator.watch member rule).runs count bytes := by
  refine ⟨?_, fun State observer => ?_, ?_⟩
  · rw [List.length_map, Draw.length_runs]
  · rw [generator.runs_watch, List.map_map]
    rfl
  · intro Row Member row member take isMember
    rw [generator.runs_watch row, generator.runs_watch member, List.map_map]
    refine List.map_congr_left fun (derivation, rest) _ => ?_
    exact congrArg (·, rest) (isMember.observe_eq derivation.events)

/-- The text beside the operators, in a row beside the shape and all events, ends
as it does alone when two expressions are drawn from six bytes. -/
theorem runs_watch_eq_map_observe_of_row :
    let row := Observer.shape.single.triple
      (Observer.operators.pair Observer.text) Observer.record
    ((({} : Generator).watch row .expression).runs 2 [1, 0, 7, 3, 9, 1]).map
        (fun (state, rest) => (state.2.1.2, rest)) =
      (({} : Generator).watch .text .expression).runs 2 [1, 0, 7, 3, 9, 1] := by
  intro row
  obtain ⟨_, _, members⟩ :=
    runs_watch_eq_map_observe {} .expression 2 [1, 0, 7, 3, 9, 1]
  exact members _ _ row .text (fun state => state.2.1.2)
    (.secondOfTriple _ _ (.secondOfPair _ (.self _)))

end CalculatorTrials
