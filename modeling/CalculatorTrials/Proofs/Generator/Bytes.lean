import CalculatorTrials.Proofs.Entropy.Cost
import CalculatorTrials.Proofs.Generator.Soundness
import CalculatorTrials.Proofs.Generator.Watched

/-!
# Bytes and events of a run

The bytes that a run reads pay for its events: one for each operator, and one for
each group where groups need not come up. So a run ends, and what it draws is no
longer than its bytes admit, to whatever depth groups can nest. The bytes that it
leaves have no part in it.
-/

namespace CalculatorTrials

namespace Derivation

/-- What the events of a derivation cost, if an operator costs one and a group has
a price. -/
def charge (price : Nat) (derivation : Derivation rule) : Nat :=
  derivation.events.countP Event.isOperator +
    price * derivation.events.count .openGroup

@[simp] theorem charge_literal (price : Nat) (number : Literal) :
    (literal number).charge price = 0 := by
  cases written : number.exponent <;>
    simp [charge, Literal.events, written, Event.isOperator]

@[simp] theorem charge_group
    (price : Nat)
    (body : Derivation .expression) :
    (group body).charge price = body.charge price + price := by
  simp [charge, Event.isOperator, Nat.mul_add, Nat.add_assoc]

/-- An operator costs one beside the operands on both of its sides. -/
theorem charge_of_operator
    (price : Nat)
    {whole : Derivation rule}
    {left : Derivation first}
    {right : Derivation second}
    {operator : Operator}
    (told : whole.events = left.events ++ .operator operator :: right.events) :
    whole.charge price = left.charge price + right.charge price + 1 := by
  have operators : whole.events.countP Event.isOperator =
      left.events.countP Event.isOperator +
        right.events.countP Event.isOperator + 1 := by
    simp [told, List.countP_cons, Event.isOperator, Nat.add_assoc]
  have groups : whole.events.count .openGroup =
      left.events.count .openGroup + right.events.count .openGroup := by
    simp [told]
  unfold charge
  rw [operators, groups, Nat.mul_add]
  omega

end Derivation

namespace Generator

/-! ## Rules that pay -/

variable {price : Nat}

theorem pays_termOf
    {primary : Draw (Derivation .primary)}
    (pays : primary.Pays 0 (·.charge price)) :
    (termOf primary).Pays 0 (·.charge price) :=
  pays.bind fun first => pays.chain
    (fun left operator right =>
      (Derivation.charge_of_operator price
        (left.events_product operator right)).le)
    (Derivation.factor first)

theorem pays_expressionOf
    {term : Draw (Derivation .term)}
    (pays : term.Pays 0 (·.charge price)) :
    (expressionOf term).Pays 0 (·.charge price) :=
  pays.bind fun first => pays.chain
    (fun left operator right =>
      (Derivation.charge_of_operator price
        (left.events_sum operator right)).le)
    (Derivation.summand first)

/-- A primary pays for its events where the chance of a group pays for the
group. -/
theorem pays_primary
    {generator : Generator}
    (pays : (Draw.oneIn generator.groupOdds).Pays 0 (price * ·.toNat))
    (room : Nat) :
    (generator.primary room).Pays 0 (·.charge price) := by
  have literal : (Derivation.literal <$> generator.literal).Pays (0 + 0)
      (·.charge price) :=
    (Draw.pays_nothing generator.literal 0).map fun number =>
      (Derivation.charge_literal price number).le
  induction room with
  | zero => exact literal
  | succ room inductionHypothesis =>
      have group : (Derivation.group <$>
            expressionOf (termOf (generator.primary room))).Pays (0 + price)
          (·.charge price) :=
        (pays_expressionOf (pays_termOf inductionHypothesis)).map fun body =>
          (body.charge_group price).le
      -- a chance that comes up is the credit that opens the group
      refine pays.bind fun isGroup => ?_
      cases isGroup with
      | true => simpa using group
      | false => simpa using literal

/-- A run pays for its events. -/
theorem pays_derive
    {generator : Generator}
    (pays : (Draw.oneIn generator.groupOdds).Pays 0 (price * ·.toNat)) :
    (rule : Rule) → (generator.derive rule).Pays 0 (·.charge price)
  | .primary => pays_primary pays _
  | .term => pays_termOf (pays_primary pays _)
  | .expression => pays_expressionOf (pays_termOf (pays_primary pays _))

/-! ## Rules that read a byte -/

/-- A literal is drawn with its sign in front. -/
theorem consumes_literal (generator : Generator) : generator.literal.Consumes :=
  (Draw.consumes_choose _ _ _).bind _

theorem consumes_primary (generator : Generator) (room : Nat) :
    (generator.primary room).Consumes := by
  have literal : (Derivation.literal <$> generator.literal).Consumes :=
    generator.consumes_literal.map _
  induction room with
  | zero => exact literal
  | succ room inductionHypothesis =>
      have group : (Derivation.group <$>
          expressionOf (termOf (generator.primary room))).Consumes :=
        ((inductionHypothesis.bind _).bind _).map _
      -- a chance of one in one reads no byte, so the byte is read behind it
      refine Draw.consumes_bind fun isGroup => ?_
      cases isGroup with
      | true => exact group
      | false => exact literal

/-- A run reads a byte if there is one. -/
theorem consumes_derive (generator : Generator) :
    (rule : Rule) → (generator.derive rule).Consumes
  | .primary => generator.consumes_primary _
  | .term => (generator.consumes_primary _).bind _
  | .expression => ((generator.consumes_primary _).bind _).bind _

/-! ## Numbers of events -/

/-- There are no more operators than bytes that are read. -/
theorem operators_add_length_le
    (generator : Generator)
    (rule : Rule)
    (bytes : List UInt8) :
    let run := (generator.derive rule).run bytes
    run.1.events.countP Event.isOperator + run.2.length ≤ bytes.length := by
  have free : (Draw.oneIn generator.groupOdds).Pays 0 (0 * ·.toNat) := by
    simp only [Nat.zero_mul]
    exact Draw.pays_nothing _ 0
  have paid := pays_derive free rule bytes
  simpa only [Derivation.charge, Nat.zero_mul, Nat.add_zero, Nat.zero_add]
    using paid

/-- There are no more operators and groups than bytes that are read, unless groups
always come up. -/
theorem operators_add_groups_add_length_le
    {generator : Generator}
    (optional : 2 ≤ generator.groupOdds)
    (rule : Rule)
    (bytes : List UInt8) :
    let run := (generator.derive rule).run bytes
    run.1.events.countP Event.isOperator + run.1.events.count .openGroup +
        run.2.length ≤ bytes.length := by
  have one : (Draw.oneIn generator.groupOdds).Pays 0 (1 * ·.toNat) := by
    simp only [Nat.one_mul]
    exact Draw.pays_oneIn optional
  have paid := pays_derive one rule bytes
  simpa only [Derivation.charge, Nat.one_mul, Nat.zero_add] using paid

/-- There are no more groups than can nest around each of the operands. -/
theorem groups_le
    (generator : Generator)
    (rule : Rule)
    (bytes : List UInt8) :
    let events := ((generator.derive rule).run bytes).1.events
    events.count .openGroup ≤
      (events.countP Event.isOperator + 1) * generator.maxDepth := by
  intro events
  have fits := generator.ensures_derive rule bytes
  rw [← Derivation.countP_isDigits_events]
  exact Nat.le_trans (Derivation.count_openGroup_le _)
    (Nat.mul_le_mul_left _ fits.nesting_le)

end Generator

/-- In every setting, by every rule and from any bytes, a run ends, and every
observer is shown its events. Its operators are no more than the bytes that it
reads, and neither are its groups, to whatever depth they can nest, unless groups
always come up; and no more groups come up than can nest around each operand. A
byte is read if there is one. A loop that draws ends after no more rounds than
bytes are read in it. -/
theorem bytes_pay_for_events
    (generator : Generator)
    (rule : Rule)
    (bytes : List UInt8) :
    let run := (generator.derive rule).run bytes
    let operators := run.1.events.countP Event.isOperator
    let groups := run.1.events.count .openGroup
    let read := bytes.length - run.2.length
    run.2 <:+ bytes ∧
      (∀ (State : Type) (observer : Observer State),
        (generator.watch observer rule).run bytes =
          (observer.observe run.1.events, run.2)) ∧
      operators ≤ read ∧
      (2 ≤ generator.groupOdds → operators + groups ≤ read) ∧
      groups ≤ (operators + 1) * generator.maxDepth ∧
      (bytes ≠ [] → 0 < read) ∧
      ∀ (State : Type) (step : State → Draw State) (state : State)
        (unread : List UInt8),
        let ends := (Draw.loop step state).run unread
        ∃ rounds,
          Draw.EndsAfter step rounds (state, unread) ends ∧
            rounds ≤ unread.length - ends.2.length := by
  intro run operators groups read
  refine ⟨Draw.run_suffix _ bytes, ?_, ?_, ?_, generator.groups_le rule bytes,
    ?_, ?_⟩
  · intro State observer
    exact generator.run_watch observer rule bytes
  · exact Nat.le_sub_of_add_le (generator.operators_add_length_le rule bytes)
  · intro optional
    exact Nat.le_sub_of_add_le
      (Generator.operators_add_groups_add_length_le optional rule bytes)
  · intro present
    exact Nat.sub_pos_of_lt (generator.consumes_derive rule bytes present)
  · intro State step state unread ends
    obtain ⟨rounds, endsAfter, spent⟩ :=
      Draw.exists_endsAfter_loop step state unread
    exact ⟨rounds, endsAfter, Nat.le_sub_of_add_le spent⟩

/-- A group with a product in it, in the default setting. -/
theorem bytes_pay_for_events_of_group :
    let bytes : List UInt8 := [9, 0, 1, 2, 0, 5, 1, 3, 4, 1, 0, 0]
    let run := (({} : Generator).derive .expression).run bytes
    run.1.events.countP Event.isOperator = 1 ∧
      run.1.events.count .openGroup = 1 ∧
      1 + 1 ≤ bytes.length - run.2.length ∧
      0 < bytes.length - run.2.length := by
  intro bytes run
  have oneOperator : run.1.events.countP Event.isOperator = 1 := by
    decide +kernel
  have oneGroup : run.1.events.count .openGroup = 1 := by
    decide +kernel
  obtain ⟨_, _, _, optional, _, present, _⟩ :=
    bytes_pay_for_events {} .expression bytes
  have paid : run.1.events.countP Event.isOperator +
      run.1.events.count .openGroup ≤ bytes.length - run.2.length :=
    optional (by decide)
  rw [oneOperator, oneGroup] at paid
  exact ⟨oneOperator, oneGroup, paid, present (by decide)⟩

/-- What a run draws from bytes of which it leaves some, it draws from any others
that begin with those it read, and it leaves the rest of them. So the bytes that
it did not read have no part in what any observer is shown. -/
theorem unread_bytes_have_no_part
    (generator : Generator)
    (rule : Rule)
    (bytes others : List UInt8) :
    let run := (generator.derive rule).run bytes
    let read := bytes.length - run.2.length
    run.2 ≠ [] →
      others.take read = bytes.take read →
      let other := (generator.derive rule).run others
      other.1 = run.1 ∧
        other.2 = others.drop read ∧
        other.2.length = others.length - read ∧
        ∀ (State : Type) (observer : Observer State),
          (generator.watch observer rule).run others =
            (((generator.watch observer rule).run bytes).1,
              others.drop read) := by
  intro run read leaves same other
  have alike : other = (run.1, others.drop read) :=
    Draw.run_eq_of_take_eq leaves same
  rw [alike]
  refine ⟨rfl, rfl, List.length_drop, fun State observer => ?_⟩
  rw [generator.run_watch, generator.run_watch]
  change (observer.observe other.1.events, other.2) = _
  rw [alike]

/-- A group is drawn from nine bytes, whatever the bytes behind them are. -/
theorem unread_bytes_have_no_part_of_group :
    let draw := ({} : Generator).derive .primary
    let bytes : List UInt8 := [9, 0, 1, 1, 3, 232, 0, 0, 0, 5]
    let others : List UInt8 := [9, 0, 1, 1, 3, 232, 0, 0, 0, 7, 7]
    (draw.run bytes).2 = [5] ∧
      (draw.run others).1 = (draw.run bytes).1 ∧
      (draw.run others).2 = [7, 7] := by
  intro draw bytes others
  have leaves : (draw.run bytes).2 = [5] := by
    decide +kernel
  have read : bytes.length - (draw.run bytes).2.length = 9 := by
    rw [leaves]
    rfl
  obtain ⟨same, rest, _, _⟩ :=
    unread_bytes_have_no_part {} .primary bytes others
      (leaves ▸ List.cons_ne_nil _ _) (read ▸ rfl)
  exact ⟨leaves, same, rest.trans (read ▸ rfl)⟩

-- a number of two bytes that was cut short is another one with its second byte
example :
    (({ maxDepth := 0 } : Generator).derive .primary).run [0, 0, 3] =
        (.literal ⟨.unsigned, 0, 3, none⟩, []) ∧
      (({ maxDepth := 0 } : Generator).derive .primary).run [0, 0, 3, 1] =
        (.literal ⟨.unsigned, 0, 769, none⟩, []) :=
  ⟨rfl, rfl⟩

end CalculatorTrials
