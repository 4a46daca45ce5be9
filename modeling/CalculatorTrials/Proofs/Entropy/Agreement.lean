import CalculatorTrials.Proofs.Entropy.Draw

/-!
# Draws that agree on some choices

Two draws can give different choices from some bytes and still be alike wherever
one of them gives a choice with a property. Draws put together from such draws
are alike in the same way, as far as the property of the whole tells that its
parts had theirs.
-/

namespace CalculatorTrials
namespace Draw

/-- From bytes from which either of the draws gives a choice with the property,
both give the same choice and leave the same bytes. -/
def AgreeWhere (property : α → Prop) (first second : Draw α) : Prop :=
  ∀ bytes,
    property (first.run bytes).1 ∨ property (second.run bytes).1 →
      first.run bytes = second.run bytes

theorem agreeWhere_refl (property : α → Prop) (draw : Draw α) :
    AgreeWhere property draw draw :=
  fun _ _ => rfl

/-- Draws behind one draw. -/
theorem agreeWhere_bind
    {property : β → Prop}
    {next other : α → Draw β}
    (agree : ∀ value, AgreeWhere property (next value) (other value))
    (draw : Draw α) :
    AgreeWhere property (draw >>= next) (draw >>= other) :=
  fun _ holds => agree _ _ holds

/-- A draw behind two draws, which keeps from its choice that theirs had the
property. -/
theorem AgreeWhere.bind
    {middle : α → Prop}
    {property : β → Prop}
    {first second : Draw α}
    {next other : α → Draw β}
    (agree : AgreeWhere middle first second)
    (nextAgree : ∀ value, AgreeWhere property (next value) (other value))
    (nextKeeps : ∀ value, (next value).Ensures (property · → middle value))
    (otherKeeps : ∀ value, (other value).Ensures (property · → middle value)) :
    AgreeWhere property (first >>= next) (second >>= other) := by
  intro bytes holds
  have same : first.run bytes = second.run bytes := by
    refine agree bytes (holds.imp ?_ ?_)
    · exact nextKeeps _ _
    · exact otherKeeps _ _
  rw [run_bind, run_bind, same] at holds ⊢
  exact nextAgree _ _ holds

theorem AgreeWhere.map
    {middle : α → Prop}
    {property : β → Prop}
    {function : α → β}
    {first second : Draw α}
    (agree : AgreeWhere middle first second)
    (keeps : ∀ value, property (function value) → middle value) :
    AgreeWhere property (function <$> first) (function <$> second) := by
  intro bytes holds
  have same := agree bytes (holds.imp (keeps _) (keeps _))
  rw [run_map, run_map, same]

section Chain

variable {join : α → β → γ → α} {link : γ → Prop} {property : α → Prop}
  (parts : ∀ left symbol right,
    property (join left symbol right) → property left ∧ link right)
include parts

/-- A chain with the property had it from its first link on. -/
theorem ensures_chain_of_parts
    (operator : Draw β)
    (operand : Draw γ)
    (left : α) :
    (chain join operator operand left).Ensures (property · → property left) := by
  have anyLink : operand.Ensures fun _ => True := fun _ => trivial
  refine anyLink.chain ?_ ?_
  · exact id
  · intro longer symbol right keeps _ holds
    exact keeps (parts longer symbol right holds).1

/-- Chains of operands that agree where they have a property agree where all
operands have it. -/
theorem AgreeWhere.chain
    {first second : Draw γ}
    (agree : AgreeWhere link first second)
    (operator : Draw β)
    (left : α) :
    AgreeWhere property
      (chain join operator first left) (chain join operator second left) := by
  intro bytes holds
  change extend join operator first left bytes =
    extend join operator second left bytes
  change property (extend join operator first left bytes).1 ∨
    property (extend join operator second left bytes).1 at holds
  fun_induction extend join operator first left bytes with
  | case1 left bytes goesOn symbol right inductionHypothesis =>
      have otherGoesOn : extend join operator second left bytes =
          extend join operator second
            (join left symbol.1 (second.run symbol.2).1)
            (second.run symbol.2).2 := by
        rw [extend, dif_pos goesOn]
      rw [otherGoesOn] at holds ⊢
      -- the longer chain shows that the next operand had its property, whichever
      -- of the two chains it is
      have same : right = second.run symbol.2 := by
        refine agree symbol.2 (holds.imp ?_ ?_)
        · intro longer
          exact (parts _ _ _
            (ensures_chain_of_parts parts operator first _ _ longer)).2
        · intro longer
          exact (parts _ _ _
            (ensures_chain_of_parts parts operator second _ _ longer)).2
      rw [← same] at holds ⊢
      exact inductionHypothesis holds
  | case2 left bytes stops =>
      rw [extend, dif_neg stops]

/-- Chains that are drawn from their first operand on. -/
theorem AgreeWhere.chainFrom
    {first second : Draw γ}
    {start : γ → α}
    (agree : AgreeWhere link first second)
    (starts : ∀ value, property (start value) → link value)
    (operator : Draw β) :
    AgreeWhere property
      (do Draw.chain join operator first (start (← first)))
      (do Draw.chain join operator second (start (← second))) := by
  refine agree.bind ?_ ?_ ?_
  · exact fun value => agree.chain parts operator (start value)
  · exact fun value bytes holds => starts value
      (ensures_chain_of_parts parts operator first (start value) bytes holds)
  · exact fun value bytes holds => starts value
      (ensures_chain_of_parts parts operator second (start value) bytes holds)

end Chain

end Draw
end CalculatorTrials
