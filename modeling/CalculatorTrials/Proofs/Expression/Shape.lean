import CalculatorTrials.Expression.Shape
import Mathlib.Data.List.Nodup
import Mathlib.Logic.Function.Basic

/-!
# What shapes tell

Mixing loses nothing: where one of the two words is known, the other one can be
found again. So every event permutes the words that a shape can be, and events
with different words lead from one shape to different ones. The words of events
differ wherever the events differ in more than their numbers.
-/

namespace CalculatorTrials

namespace Event

/-- An event with its numbers left out. -/
def withoutNumbers : Event → Event
  | digits _ _ => digits 0 0
  | exponent marker _ => exponent marker 0
  | event => event

/-- All events that have their numbers left out. -/
def forms : List Event :=
  [openGroup, closeGroup, digits 0 0] ++ Operator.all.map operator ++
    Sign.all.map sign ++ Marker.all.map (exponent · 0)

theorem withoutNumbers_mem_forms (event : Event) :
    event.withoutNumbers ∈ forms := by
  cases event with
  | openGroup => decide
  | closeGroup => decide
  | operator symbol => cases symbol using Operator.cases_four <;> decide
  | sign symbol => cases symbol <;> decide
  | digits whole fraction => exact (by decide : digits 0 0 ∈ forms)
  | exponent marker size =>
      change exponent marker 0 ∈ forms
      cases marker <;> decide

end Event

namespace Shape

/-! ## Mixing -/

/-- The multiplier of a mixing is odd, so it has an inverse among words. -/
theorem mul_multiplier_bijective :
    Function.Bijective fun word : UInt64 => word * 0x517cc1b727220a95 := by
  have inverse : (0x517cc1b727220a95 : UInt64) * 0x2040003d780970bd = 1 := by
    decide
  refine Function.bijective_iff_has_inverse.mpr
    ⟨fun product => product * 0x2040003d780970bd, fun word => ?_,
      fun product => ?_⟩
  · change word * 0x517cc1b727220a95 * 0x2040003d780970bd = word
    rw [UInt64.mul_assoc, inverse, UInt64.mul_one]
  · change product * 0x2040003d780970bd * 0x517cc1b727220a95 = product
    rw [UInt64.mul_assoc, UInt64.mul_comm 0x2040003d780970bd, inverse,
      UInt64.mul_one]

/-- To combine with one word twice changes nothing. -/
theorem xor_bijective (hash : UInt64) :
    Function.Bijective fun word => hash ^^^ word := by
  have twice : Function.Involutive fun word => hash ^^^ word := by
    intro word
    change hash ^^^ (hash ^^^ word) = word
    rw [← UInt64.xor_assoc, UInt64.xor_self, UInt64.zero_xor]
  exact twice.bijective

/-- A word that was rotated to the left can be rotated back. -/
theorem rotate_injective :
    Function.Injective fun hash : UInt64 => hash <<< 5 ||| hash >>> 59 := by
  refine Function.LeftInverse.injective
    (g := fun hash : UInt64 => hash >>> 5 ||| hash <<< 59) fun hash => ?_
  apply UInt64.eq_of_toBitVec_eq
  apply BitVec.eq_of_getLsbD_eq
  intro place inWord
  have beyond : hash.toBitVec.getLsbD (59 + (5 + place)) = false :=
    BitVec.getLsbD_of_ge _ _ (by omega)
  simp only [UInt64.toBitVec_or, UInt64.toBitVec_shiftRight,
    UInt64.toBitVec_shiftLeft, UInt64.toBitVec_ofNat, BitVec.ofNat_eq_ofNat,
    BitVec.reduceMod, BitVec.shiftLeft_eq', BitVec.ushiftRight_eq',
    BitVec.toNat_ofNat, Nat.reducePow, Nat.reduceMod, BitVec.getLsbD_or,
    BitVec.getLsbD_ushiftRight, BitVec.getLsbD_shiftLeft,
    Nat.add_sub_cancel_left, beyond, Bool.or_false]
  -- what is left compares one place with the places it was moved through
  grind

theorem mix_bijective (hash : UInt64) : Function.Bijective (mix hash) :=
  mul_multiplier_bijective.comp (xor_bijective _)

theorem mix_left_injective (word : UInt64) :
    Function.Injective fun hash => mix hash word := by
  intro hash other same
  have combined := mul_multiplier_bijective.injective same
  rw [UInt64.xor_comm, UInt64.xor_comm _ word] at combined
  exact rotate_injective ((xor_bijective word).injective combined)

/-- The hash of two words permutes the second one, whatever the first one is. -/
theorem hashPair_bijective (first : UInt64) :
    Function.Bijective (hashPair first) :=
  mix_bijective _

/-- The hash of two words tells the first one, if the second one is known. -/
theorem hashPair_left_injective (second : UInt64) :
    Function.Injective fun first => hashPair first second :=
  (mix_left_injective second).comp (mix_bijective 0).injective

/-! ## Words of events -/

theorem code_withoutNumbers (event : Event) :
    code event.withoutNumbers = code event := by
  cases event <;> rfl

/-- The words of the sixteen events without numbers are all different. -/
theorem nodup_codes : (Event.forms.map code).Nodup := by
  decide

/-- Events have one word just if they differ in nothing but numbers. -/
theorem code_eq_iff (event other : Event) :
    code event = code other ↔ event.withoutNumbers = other.withoutNumbers := by
  rw [← code_withoutNumbers event, ← code_withoutNumbers other]
  constructor
  · exact List.inj_on_of_nodup_map nodup_codes event.withoutNumbers_mem_forms
      other.withoutNumbers_mem_forms
  · exact congrArg code

end Shape

namespace Observer

/-! ## Shapes of events -/

/-- An event permutes the words that a shape can be. -/
theorem step_shape_bijective (event : Event) :
    Function.Bijective fun hash => shape.step hash event :=
  Shape.hashPair_bijective _

/-- Events in a row permute the words that a shape can be. -/
theorem foldl_shape_bijective (events : List Event) :
    Function.Bijective fun hash => events.foldl shape.step hash := by
  induction events with
  | nil => exact Function.bijective_id
  | cons event events inductionHypothesis =>
      exact inductionHypothesis.comp (step_shape_bijective event)

/-- From one word, two events lead to the same one just if they differ in nothing
but numbers. -/
theorem step_shape_eq_iff (hash : UInt64) (event other : Event) :
    shape.step hash event = shape.step hash other ↔
      event.withoutNumbers = other.withoutNumbers := by
  rw [← Shape.code_eq_iff]
  exact (Shape.hashPair_left_injective hash).eq_iff

/-- The shape is that of the events without their numbers. -/
theorem observe_shape_withoutNumbers (events : List Event) :
    shape.observe (events.map Event.withoutNumbers) = shape.observe events := by
  have sameStep (hash : UInt64) (event : Event) :
      shape.step hash event.withoutNumbers = shape.step hash event :=
    congrArg (Shape.hashPair · hash) (Shape.code_withoutNumbers event)
  rw [observe, List.foldl_map]
  simp only [sameStep]
  rfl

/-- What follows does not hide that two shapes differ. -/
theorem observe_shape_append_eq_iff (first second later : List Event) :
    shape.observe (first ++ later) = shape.observe (second ++ later) ↔
      shape.observe first = shape.observe second := by
  rw [observe_append, observe_append]
  exact (foldl_shape_bijective later).injective.eq_iff

end Observer

/-- The numbers of events leave no trace in a shape, and nothing else is lost by
an event: each permutes the words that a shape can be, so that events behind two
others keep shapes apart, and two events in one place, between the same others,
give one shape just if they differ in nothing but numbers. -/
theorem shape_ignores_numbers_alone :
    (∀ first second : List Event,
      first.map Event.withoutNumbers = second.map Event.withoutNumbers →
        Observer.shape.observe first = Observer.shape.observe second) ∧
    (∀ event : Event,
      Function.Bijective fun hash => Observer.shape.step hash event) ∧
    (∀ first second later : List Event,
      Observer.shape.observe (first ++ later) =
          Observer.shape.observe (second ++ later) ↔
        Observer.shape.observe first = Observer.shape.observe second) ∧
    ∀ (before later : List Event) (event other : Event),
      Observer.shape.observe (before ++ [event] ++ later) =
          Observer.shape.observe (before ++ [other] ++ later) ↔
        event.withoutNumbers = other.withoutNumbers := by
  refine ⟨fun first second same => ?_, Observer.step_shape_bijective,
    Observer.observe_shape_append_eq_iff, fun before later event other => ?_⟩
  · rw [← Observer.observe_shape_withoutNumbers first, same,
      Observer.observe_shape_withoutNumbers]
  · rw [Observer.observe_shape_append_eq_iff, Observer.observe_append,
      Observer.observe_append]
    exact Observer.step_shape_eq_iff _ event other

/-- Products of other numbers have one shape, and a quotient has another one. -/
theorem shape_ignores_numbers_alone_of_product :
    let product (whole fraction : Nat) : List Event :=
      [.sign .minus, .digits whole fraction] ++ [.operator .mul] ++
        [.sign .unsigned, .digits 2 0, .exponent .lowerMinus whole]
    let quotient : List Event :=
      [.sign .minus, .digits 3 14] ++ [.operator .div] ++
        [.sign .unsigned, .digits 2 0, .exponent .lowerMinus 3]
    Observer.shape.observe (product 3 14) =
        Observer.shape.observe (product 10 999) ∧
      Observer.shape.observe (product 3 14) ≠
        Observer.shape.observe quotient := by
  obtain ⟨numbers, _, _, place⟩ := shape_ignores_numbers_alone
  refine ⟨numbers _ _ rfl, ?_⟩
  rw [Ne, place]
  decide

end CalculatorTrials
