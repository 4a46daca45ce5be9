import CalculatorTrials.Expression.Derivation
import Mathlib.Data.List.Basic

/-!
# Operands, operators and groups

What the events of a derivation look like in a row: one more operand than
operators, groups that are closed in order, and literals as deep in groups as
they are in the derivation. The depth at a place of the events is the number of
groups that were opened in front of it, less those that were closed.
-/

namespace CalculatorTrials

/-- The numbers of a literal are none too large. -/
structure Literal.InRange (literal : Literal) : Prop where
  whole_le : literal.whole ≤ 10
  fraction_le : literal.fraction ≤ 999
  size_le : ∀ marker size, literal.exponent = some (marker, size) → size ≤ 10

namespace Event

/-- Whether an event is the digits of a literal, of which each literal has one. -/
def isDigits : Event → Bool
  | digits .. => true
  | _ => false

/-- Whether an event is an operator. -/
def isOperator : Event → Bool
  | operator _ => true
  | _ => false

/-- Groups are closed in order, and every event has the property at its depth. -/
def AtDepths (property : Nat → Event → Prop) (events : List Event) : Prop :=
  ∀ before event after, events = before ++ event :: after →
    ∃ depth, before.count openGroup = before.count closeGroup + depth ∧
      property depth event

theorem AtDepths.mono
    {property weaker : Nat → Event → Prop}
    {events : List Event}
    (holds : AtDepths property events)
    (implies : ∀ depth event, property depth event → weaker depth event) :
    AtDepths weaker events := by
  intro before event after same
  obtain ⟨depth, height, strong⟩ := holds before event after same
  exact ⟨depth, height, implies depth event strong⟩

end Event

namespace Derivation

/-- The literals of a derivation, in order. -/
def literals : Derivation rule → List Literal
  | literal number => [number]
  | group body => body.literals
  | factor primary => primary.literals
  | product left _ right => left.literals ++ right.literals
  | summand term => term.literals
  | sum left _ right => left.literals ++ right.literals

/-- The numbers of groups around each of the literals, in order. -/
def literalDepths : Derivation rule → List Nat
  | literal _ => [0]
  | group body => body.literalDepths.map Nat.succ
  | factor primary => primary.literalDepths
  | product left _ right => left.literalDepths ++ right.literalDepths
  | summand term => term.literalDepths
  | sum left _ right => left.literalDepths ++ right.literalDepths

/-- All literals have numbers that are none too large. -/
def InRange (derivation : Derivation rule) : Prop :=
  ∀ literal ∈ derivation.literals, literal.InRange

/-! ## Numbers of events -/

/-- There is one more literal than operators. -/
theorem countP_isDigits_events (derivation : Derivation rule) :
    derivation.events.countP Event.isDigits =
      derivation.events.countP Event.isOperator + 1 := by
  induction derivation with
  | literal number =>
      cases written : number.exponent <;>
        simp [Literal.events, written, List.countP_cons, Event.isDigits,
          Event.isOperator]
  | group body inductionHypothesis =>
      simp [inductionHypothesis, Event.isDigits, Event.isOperator]
  | factor primary inductionHypothesis => exact inductionHypothesis
  | product left operator right leftHypothesis rightHypothesis
  | sum left operator right leftHypothesis rightHypothesis =>
      simp only [events_product, events_sum, List.countP_append,
        List.countP_cons, leftHypothesis, rightHypothesis, Event.isDigits,
        Event.isOperator, Bool.false_eq_true, if_false, if_true]
      omega
  | summand term inductionHypothesis => exact inductionHypothesis

/-- A literal opens and closes no groups. -/
theorem count_group_literal (number : Literal) :
    number.events.count .openGroup = 0 ∧
      number.events.count .closeGroup = 0 := by
  cases written : number.exponent <;> simp [Literal.events, written]

/-- Every group is closed. -/
theorem count_openGroup_events (derivation : Derivation rule) :
    derivation.events.count .openGroup =
      derivation.events.count .closeGroup := by
  induction derivation with
  | literal number =>
      rw [events_literal, (count_group_literal number).1,
        (count_group_literal number).2]
  | group body inductionHypothesis => simp [inductionHypothesis]
  | factor primary inductionHypothesis => exact inductionHypothesis
  | product left operator right leftHypothesis rightHypothesis
  | sum left operator right leftHypothesis rightHypothesis =>
      simp [leftHypothesis, rightHypothesis]
  | summand term inductionHypothesis => exact inductionHypothesis

/-- A group has a literal in it, and no literal is in more groups than nest, so
there are no more groups than so many for each literal. -/
theorem count_openGroup_le (derivation : Derivation rule) :
    derivation.events.count .openGroup ≤
      derivation.events.countP Event.isDigits * derivation.nesting := by
  induction derivation with
  | literal number =>
      rw [events_literal, (count_group_literal number).1]
      exact Nat.zero_le _
  | group body inductionHypothesis =>
      have present := body.countP_isDigits_events
      have opened : (group body).events.count .openGroup =
          body.events.count .openGroup + 1 := by simp
      have sameDigits : (group body).events.countP Event.isDigits =
          body.events.countP Event.isDigits := by simp [Event.isDigits]
      rw [opened, sameDigits, nesting, Nat.mul_add]
      omega
  | factor primary inductionHypothesis => exact inductionHypothesis
  | product left operator right leftHypothesis rightHypothesis
  | sum left operator right leftHypothesis rightHypothesis =>
      simp only [events_product, events_sum, List.count_append,
        List.countP_append, List.countP_cons, Event.isDigits, nesting]
      have first := Nat.le_trans leftHypothesis
        (Nat.mul_le_mul_left _ (Nat.le_max_left left.nesting right.nesting))
      have second := Nat.le_trans rightHypothesis
        (Nat.mul_le_mul_left _ (Nat.le_max_right left.nesting right.nesting))
      simpa [Nat.add_mul] using Nat.add_le_add first second
  | summand term inductionHypothesis => exact inductionHypothesis

/-! ## Depths -/

/-- An element of two lists with a mark between them is in the first one, is the
mark, or is in the second one. -/
theorem append_cons_eq_append_cons
    {left right before after : List α}
    {mark element : α}
    (same : left ++ mark :: right = before ++ element :: after) :
    (∃ rest, left = before ++ element :: rest) ∨
      (before = left ∧ element = mark) ∨
      ∃ front, before = left ++ mark :: front ∧
        right = front ++ element :: after := by
  rcases List.append_eq_append_iff.mp same with
    ⟨front, rfl, behind⟩ | ⟨back, rfl, behind⟩
  · rcases List.cons_eq_append_iff.mp behind with
      ⟨rfl, marked⟩ | ⟨others, rfl, behindMark⟩
    · exact .inr (.inl ⟨List.append_nil _, (List.cons.inj marked).1⟩)
    · exact .inr (.inr ⟨others, rfl, behindMark⟩)
  · rcases List.cons_eq_append_iff.mp behind with
      ⟨rfl, marked⟩ | ⟨others, rfl, _⟩
    · exact .inr (.inl ⟨(List.append_nil _).symm,
        (List.cons.inj marked).1.symm⟩)
    · exact .inl ⟨others, rfl⟩

/-- The events of a literal are in no groups of their own. -/
theorem atDepths_literal
    {property : Nat → Event → Prop}
    {number : Literal}
    (holds : ∀ event ∈ number.events, property 0 event) :
    Event.AtDepths property number.events := by
  intro before event after same
  have part : before.Sublist number.events := by
    rw [same]
    exact List.sublist_append_left ..
  have opened := part.count_le .openGroup
  have closed := part.count_le .closeGroup
  rw [(count_group_literal number).1] at opened
  rw [(count_group_literal number).2] at closed
  refine ⟨0, by omega, holds event ?_⟩
  rw [same]
  exact List.mem_append_right _ (List.mem_cons_self ..)

/-- In a group, everything is one deeper. -/
theorem atDepths_group
    {property : Nat → Event → Prop}
    {body : List Event}
    (closed : body.count .openGroup = body.count .closeGroup)
    (opens : property 0 .openGroup)
    (inside : Event.AtDepths (fun depth => property (depth + 1)) body)
    (closes : property 1 .closeGroup) :
    Event.AtDepths property (.openGroup :: (body ++ [.closeGroup])) := by
  intro before event after same
  have split : [] ++ Event.openGroup :: (body ++ [.closeGroup]) =
      before ++ event :: after := same
  rcases append_cons_eq_append_cons split with
    ⟨_, impossible⟩ | ⟨rfl, rfl⟩ | ⟨front, rfl, behind⟩
  · exact absurd impossible.symm (List.append_ne_nil_of_right_ne_nil _ (by simp))
  · exact ⟨0, rfl, opens⟩
  · rcases append_cons_eq_append_cons behind with
      ⟨rest, inBody⟩ | ⟨rfl, rfl⟩ | ⟨_, _, impossible⟩
    · obtain ⟨depth, height, holds⟩ := inside _ _ _ inBody
      refine ⟨depth + 1, ?_, holds⟩
      simp
      omega
    · refine ⟨1, ?_, closes⟩
      simp
      omega
    · exact absurd impossible.symm
        (List.append_ne_nil_of_right_ne_nil _ (by simp))

/-- An operator stands outside of the groups on both of its sides. -/
theorem atDepths_chain
    {property : Nat → Event → Prop}
    {left right : List Event}
    {operator : Operator}
    (closed : left.count .openGroup = left.count .closeGroup)
    (first : Event.AtDepths property left)
    (between : property 0 (.operator operator))
    (second : Event.AtDepths property right) :
    Event.AtDepths property (left ++ .operator operator :: right) := by
  intro before event after same
  rcases append_cons_eq_append_cons same with
    ⟨rest, inLeft⟩ | ⟨rfl, rfl⟩ | ⟨front, rfl, inRight⟩
  · exact first _ _ _ inLeft
  · exact ⟨0, closed, between⟩
  · obtain ⟨depth, height, holds⟩ := second _ _ _ inRight
    refine ⟨depth, ?_, holds⟩
    simp [closed, height]
    omega

/-- The depths on both sides of an operator. -/
theorem atDepths_operator
    (operator : Operator)
    {left right : List Event}
    {leftNesting rightNesting : Nat}
    {leftDepths rightDepths : List Nat}
    (closed : left.count .openGroup = left.count .closeGroup)
    (first : Event.AtDepths
      (fun depth event =>
        depth ≤ leftNesting ∧ (event.isDigits = true → depth ∈ leftDepths))
      left)
    (second : Event.AtDepths
      (fun depth event =>
        depth ≤ rightNesting ∧ (event.isDigits = true → depth ∈ rightDepths))
      right) :
    Event.AtDepths
      (fun depth event =>
        depth ≤ max leftNesting rightNesting ∧
          (event.isDigits = true → depth ∈ leftDepths ++ rightDepths))
      (left ++ .operator operator :: right) := by
  refine atDepths_chain closed ?_ ⟨Nat.zero_le _, nofun⟩ ?_
  · exact first.mono fun _ _ ⟨le, among⟩ =>
      ⟨Nat.le_trans le (Nat.le_max_left ..), fun isDigits =>
        List.mem_append_left _ (among isDigits)⟩
  · exact second.mono fun _ _ ⟨le, among⟩ =>
      ⟨Nat.le_trans le (Nat.le_max_right ..), fun isDigits =>
        List.mem_append_right _ (among isDigits)⟩

/-- No event is deeper than groups nest in the derivation, and a literal is as
deep as one of those of the derivation. -/
theorem atDepths_events (derivation : Derivation rule) :
    Event.AtDepths
      (fun depth event =>
        depth ≤ derivation.nesting ∧
          (event.isDigits = true → depth ∈ derivation.literalDepths))
      derivation.events := by
  induction derivation with
  | literal number =>
      rw [events_literal]
      exact atDepths_literal fun event _ =>
        ⟨Nat.le_refl 0, fun _ => List.mem_singleton_self 0⟩
  | group body inductionHypothesis =>
      rw [events_group]
      refine atDepths_group (count_openGroup_events body)
        ⟨Nat.zero_le _, nofun⟩ ?_ ⟨Nat.le_add_left 1 _, nofun⟩
      refine inductionHypothesis.mono fun depth event ⟨le, among⟩ => ?_
      exact ⟨Nat.succ_le_succ le, fun isDigits =>
        List.mem_map_of_mem (among isDigits)⟩
  | factor primary inductionHypothesis => exact inductionHypothesis
  | product left operator right leftHypothesis rightHypothesis =>
      rw [events_product]
      exact atDepths_operator _ (count_openGroup_events left) leftHypothesis
        rightHypothesis
  | summand term inductionHypothesis => exact inductionHypothesis
  | sum left operator right leftHypothesis rightHypothesis =>
      rw [events_sum]
      exact atDepths_operator _ (count_openGroup_events left) leftHypothesis
        rightHypothesis

end Derivation
end CalculatorTrials
