import CalculatorTrials.Proofs.Expression.Derivation
import CalculatorTrials.Proofs.Expression.Text
import CalculatorTrials.Proofs.Text.Lines
import CalculatorTrials.Workspace.Corpus
import Mathlib.Data.Finset.Card

/-!
# Texts and shapes of test cases

The lines of a file of test cases are the texts of the cases, none of them empty
or with white space in it. As the text of a case tells its events, there are no
more shapes than texts.
-/

namespace CalculatorTrials
namespace Corpus

/-- The lines are the texts of the cases, in order. -/
theorem lines_generate
    (generator : Generator)
    (count : Nat)
    (seed : UInt64) :
    (generate generator count seed).lines =
      (generator.cases seed 0 count).map fun derivation =>
        Observer.text.observe derivation.events := by
  simp [lines, generate]

/-- The characters of expressions are no white space. -/
theorem isWhiteSpace_of_mem_alphabet :
    ∀ character ∈ Event.alphabet, Text.isWhiteSpace character = false := by
  have noSpace : Event.alphabet.any Text.isWhiteSpace = false := rfl
  simpa using noSpace

/-- No line is empty, and none has white space in it. -/
theorem plain_of_mem_lines
    {generator : Generator}
    {count : Nat}
    {seed : UInt64}
    {line : String}
    (member : line ∈ (generate generator count seed).lines) :
    line ≠ "" ∧
      ∀ character ∈ line.toList, Text.isWhiteSpace character = false := by
  rw [lines_generate] at member
  obtain ⟨derivation, _, rfl⟩ := List.mem_map.mp member
  rw [Observer.observe_text]
  constructor
  · intro empty
    have noText : String.ofList derivation.text = String.ofList [] := empty
    exact derivation.text_ne_nil (String.ofList_inj.mp noText)
  · rw [String.toList_ofList]
    intro character among
    exact isWhiteSpace_of_mem_alphabet character
      (derivation.text_subset_alphabet among)

/-- No line holds terminators. -/
theorem isLine_of_mem_lines
    {generator : Generator}
    {count : Nat}
    {seed : UInt64} :
    ∀ line ∈ (generate generator count seed).lines,
      Text.IsLine line.toList := by
  intro line member
  obtain ⟨_, plain⟩ := plain_of_mem_lines member
  exact Text.isLine_of_forall_ne fun character among =>
    Text.ne_terminator_of_isWhiteSpace (plain character among)

/-- Every line is evaluated to the outcome of its case. -/
theorem map_evaluate_lines
    (generator : Generator)
    (count : Nat)
    (seed : UInt64) :
    (generate generator count seed).lines.map evaluate =
      ((generator.cases seed 0 count).map Derivation.outcome).map .ok := by
  rw [lines_generate, List.map_map, List.map_map]
  refine List.map_congr_left fun derivation _ => ?_
  rw [Function.comp_apply, Observer.observe_text]
  exact evaluate_text derivation

/-! ## Numbers of shapes -/

/-- The size of a set is the number of different elements that it was made of. -/
theorem size_ofList (list : List UInt64) :
    (Std.HashSet.ofList list).size = list.toFinset.card := by
  have distinct : (Std.HashSet.ofList list).toList.Nodup := by
    refine Std.HashSet.distinct_toList.imp fun different same => ?_
    rw [same, beq_self_eq_true] at different
    cases different
  rw [← Std.HashSet.length_toList, ← List.toFinset_card_of_nodup distinct]
  congr 1
  ext element
  simp

/-- The different shapes of the cases are counted. -/
theorem shapes_eq
    (generator : Generator)
    (count : Nat)
    (seed : UInt64) :
    (generate generator count seed).summary.shapes =
      ((generator.cases seed 0 count).map fun derivation =>
        Observer.shape.observe derivation.events).toFinset.card := by
  rw [summary, size_ofList]
  simp [generate, Function.comp_def]

/-- A list of pairs has no more different seconds than firsts, if the first of a
pair determines the second. -/
theorem card_seconds_le
    [DecidableEq α]
    [DecidableEq β]
    {pairs : List (α × β)}
    (determined : ∀ pair ∈ pairs, ∀ other ∈ pairs,
      pair.1 = other.1 → pair.2 = other.2) :
    (pairs.map Prod.snd).toFinset.card ≤
      (pairs.map Prod.fst).toFinset.card := by
  have firsts : (pairs.map Prod.fst).toFinset =
      pairs.toFinset.image Prod.fst := by
    ext; simp
  have seconds : (pairs.map Prod.snd).toFinset =
      pairs.toFinset.image Prod.snd := by
    ext; simp
  have injective : Set.InjOn Prod.fst (pairs.toFinset : Set (α × β)) := by
    intro pair member other otherMember same
    exact Prod.ext same (determined pair (by simpa using member) other
      (by simpa using otherMember) same)
  rw [firsts, seconds, Finset.card_image_of_injOn injective]
  exact Finset.card_image_le

/-- There are no more shapes than different lines. -/
theorem shapes_le
    (generator : Generator)
    (count : Nat)
    (seed : UInt64) :
    (generate generator count seed).summary.shapes ≤
      (generate generator count seed).lines.toFinset.card := by
  rw [summary, size_ofList, lines]
  apply card_seconds_le
  intro pair member other otherMember same
  obtain ⟨first, _, rfl⟩ := List.mem_map.mp member
  obtain ⟨second, _, rfl⟩ := List.mem_map.mp otherMember
  simp only [Observer.observe_pair, Observer.observe_text] at same ⊢
  rw [Derivation.events_eq_of_text_eq (String.ofList_inj.mp same)]

end Corpus
end CalculatorTrials
