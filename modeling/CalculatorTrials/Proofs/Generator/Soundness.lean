import CalculatorTrials.Proofs.Entropy.Draw
import CalculatorTrials.Proofs.Expression.Derivation
import CalculatorTrials.Proofs.Expression.Recognizer
import CalculatorTrials.Proofs.Expression.Text

/-!
# Soundness of generators

Whatever the bytes are, what a generator draws is a derivation whose numbers are
none too large and whose groups nest no deeper than the generator admits. If all
primaries that may be groups are groups, its literals are all as deep as groups
can nest. So much is known of the events of every run.
-/

namespace CalculatorTrials

/-- The derivation is one that a generator can draw where groups may nest to a
depth. -/
structure Derivation.Fits
    (generator : Generator)
    (room : Nat)
    (derivation : Derivation rule) : Prop where
  inRange : derivation.InRange
  nesting_le : derivation.nesting ≤ room
  literalDepths_eq : generator.groupOdds ≤ 1 →
    ∀ depth ∈ derivation.literalDepths, depth = room

/-- The events are those of a derivation from the rule that a generator can
draw, told without the derivation: by the numbers of events of each kind, by
their depths, and by their text. -/
structure Event.Complete
    (generator : Generator)
    (rule : Rule)
    (events : List Event) : Prop where
  /-- The events are derived from the rule, with numbers that are none too
  large. -/
  derived : ∃ derivation : Derivation rule,
    derivation.InRange ∧ derivation.events = events
  /-- There is one more literal than operators. -/
  operands : events.countP isDigits = events.countP isOperator + 1
  /-- Every group is closed. -/
  groups : events.count openGroup = events.count closeGroup
  /-- Groups are closed in order and nest no deeper than the generator admits. If
  they come up always, all literals are as deep as that. -/
  depths : AtDepths
    (fun depth event =>
      depth ≤ generator.maxDepth ∧
        (generator.groupOdds ≤ 1 → event.isDigits = true →
          depth = generator.maxDepth))
    events
  /-- The rule recognizes the text and leaves nothing of it. -/
  recognized :
    Recognizer.rest? rule (Observer.text.observe events).toList = some []
  /-- The text has no other characters than those of expressions. -/
  characters : ∀ character ∈ (Observer.text.observe events).toList,
    character ∈ alphabet

namespace Generator

/-! ## Literals -/

theorem ensures_exponent :
    exponent.Ensures fun (_, size) => size ≤ 10 := by
  refine Draw.ensures_bind fun marker => ?_
  refine (Draw.ensures_between 1 (Nat.zero_le 10)).bind fun size range => ?_
  exact fun _ => range.2

/-- The numbers of a literal are none too large. -/
theorem ensures_literal (generator : Generator) :
    generator.literal.Ensures Literal.InRange := by
  refine Draw.ensures_bind fun sign => ?_
  refine (Draw.ensures_between 1 (Nat.zero_le 10)).bind fun whole isWhole => ?_
  refine (Draw.ensures_between 2 (Nat.zero_le 999)).bind
    fun fraction isFraction => ?_
  refine Draw.ensures_bind fun hasExponent => ?_
  split
  · refine ensures_exponent.bind fun marked size_le _ => ?_
    exact ⟨isWhole.2, isFraction.2, by rintro _ _ ⟨⟩; exact size_le⟩
  · exact fun _ => ⟨isWhole.2, isFraction.2, nofun⟩

end Generator

/-! ## Derivations that fit -/

namespace Derivation.Fits

variable {generator : Generator} {room : Nat}

/-- A literal fits where no group can be, or where groups need not be. -/
theorem literal
    {number : Literal}
    (inRange : number.InRange)
    (optional : generator.groupOdds ≤ 1 → room = 0) :
    (Derivation.literal number).Fits generator room where
  inRange := List.forall_mem_singleton.mpr inRange
  nesting_le := Nat.zero_le room
  literalDepths_eq always :=
    List.forall_mem_singleton.mpr (optional always).symm

/-- A group fits where one more can be than in its body. -/
theorem group
    {body : Derivation .expression}
    (fits : body.Fits generator room) :
    (Derivation.group body).Fits generator (room + 1) where
  inRange := fits.inRange
  nesting_le := Nat.succ_le_succ fits.nesting_le
  literalDepths_eq always :=
    List.forall_mem_map.mpr fun depth among =>
      congrArg Nat.succ (fits.literalDepths_eq always depth among)

theorem factor
    {primary : Derivation .primary}
    (fits : primary.Fits generator room) :
    (Derivation.factor primary).Fits generator room :=
  ⟨fits.inRange, fits.nesting_le, fits.literalDepths_eq⟩

theorem product
    {left : Derivation .term}
    (operator : Multiplicative)
    {right : Derivation .primary}
    (first : left.Fits generator room)
    (second : right.Fits generator room) :
    (Derivation.product left operator right).Fits generator room where
  inRange := List.forall_mem_append.mpr ⟨first.inRange, second.inRange⟩
  nesting_le := Nat.max_le.mpr ⟨first.nesting_le, second.nesting_le⟩
  literalDepths_eq always := List.forall_mem_append.mpr
    ⟨first.literalDepths_eq always, second.literalDepths_eq always⟩

theorem summand
    {term : Derivation .term}
    (fits : term.Fits generator room) :
    (Derivation.summand term).Fits generator room :=
  ⟨fits.inRange, fits.nesting_le, fits.literalDepths_eq⟩

theorem sum
    {left : Derivation .expression}
    (operator : Additive)
    {right : Derivation .term}
    (first : left.Fits generator room)
    (second : right.Fits generator room) :
    (Derivation.sum left operator right).Fits generator room where
  inRange := List.forall_mem_append.mpr ⟨first.inRange, second.inRange⟩
  nesting_le := Nat.max_le.mpr ⟨first.nesting_le, second.nesting_le⟩
  literalDepths_eq always := List.forall_mem_append.mpr
    ⟨first.literalDepths_eq always, second.literalDepths_eq always⟩

end Derivation.Fits

/-! ## Runs -/

namespace Generator

variable (generator : Generator) {room : Nat}

theorem ensures_termOf
    {primary : Draw (Derivation .primary)}
    (ensures : primary.Ensures (·.Fits generator room)) :
    (termOf primary).Ensures (·.Fits generator room) :=
  ensures.bind fun _ fits => ensures.chain fits.factor
    fun _ operator _ left right => left.product operator right

theorem ensures_expressionOf
    {term : Draw (Derivation .term)}
    (ensures : term.Ensures (·.Fits generator room)) :
    (expressionOf term).Ensures (·.Fits generator room) :=
  ensures.bind fun _ fits => ensures.chain fits.summand
    fun _ operator _ left right => left.sum operator right

/-- A primary fits where it is drawn. -/
theorem ensures_primary (room : Nat) :
    (generator.primary room).Ensures (·.Fits generator room) := by
  induction room with
  | zero =>
      exact generator.ensures_literal.map fun _ inRange =>
        .literal inRange fun _ => rfl
  | succ room inductionHypothesis =>
      have group : (Derivation.group <$>
            expressionOf (termOf (generator.primary room))).Ensures
          (·.Fits generator (room + 1)) :=
        (generator.ensures_expressionOf
          (generator.ensures_termOf inductionHypothesis)).map
            fun _ fits => fits.group
      by_cases always : generator.groupOdds ≤ 1
      · refine (Draw.ensures_oneIn always).bind fun isGroup comesUp => ?_
        rw [if_pos comesUp]
        exact group
      · refine Draw.ensures_bind fun isGroup => ?_
        split
        · exact group
        · exact generator.ensures_literal.map fun _ inRange =>
            .literal inRange fun least => absurd least always

/-- A derivation from any rule fits into the greatest depth. -/
theorem ensures_derive : (rule : Rule) →
    (generator.derive rule).Ensures (·.Fits generator generator.maxDepth)
  | .primary => generator.ensures_primary generator.maxDepth
  | .term => generator.ensures_termOf (generator.ensures_primary _)
  | .expression => generator.ensures_expressionOf
      (generator.ensures_termOf (generator.ensures_primary _))

end Generator

/-- The events of a derivation that fits are complete. -/
theorem Derivation.Fits.complete
    {generator : Generator}
    {derivation : Derivation rule}
    (fits : derivation.Fits generator generator.maxDepth) :
    Event.Complete generator rule derivation.events where
  derived := ⟨derivation, fits.inRange, rfl⟩
  operands := derivation.countP_isDigits_events
  groups := derivation.count_openGroup_events
  depths := derivation.atDepths_events.mono fun depth _ ⟨le, among⟩ =>
    ⟨Nat.le_trans le fits.nesting_le, fun always isDigits =>
      fits.literalDepths_eq always depth (among isDigits)⟩
  recognized := by
    rw [Observer.observe_text, String.toList_ofList]
    exact Recognizer.rest?_text fits.inRange
  characters := by
    rw [Observer.observe_text, String.toList_ofList]
    exact fun _ among => derivation.text_subset_alphabet among

/-- In every setting, by every rule and from any bytes, the events of a run are
complete. -/
theorem complete_events_derive
    (generator : Generator)
    (rule : Rule)
    (bytes : List UInt8) :
    Event.Complete generator rule
      ((generator.derive rule).run bytes).1.events :=
  (generator.ensures_derive rule bytes).complete

end CalculatorTrials
