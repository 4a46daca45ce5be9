import CalculatorTrials.Text.Blank

/-!
# What is dropped at the ends of a text

Nothing is dropped at the ends of a text without characters of the kind that is
dropped, and of any text what is dropped at its end are such characters.
-/

namespace CalculatorTrials
namespace Text

/-- Nothing is dropped from the start of a text without such characters. -/
theorem dropWhile_eq_self
    {kind : Char → Bool}
    {text : List Char}
    (free : ∀ character ∈ text, kind character = false) :
    text.dropWhile kind = text := by
  cases text with
  | nil => rfl
  | cons first rest =>
      have notFirst := free first (List.mem_cons_self ..)
      rw [List.dropWhile_cons, notFirst]
      rfl

/-- Nothing is dropped from the end of a text without such characters. -/
theorem dropEnd_eq_self
    {kind : Char → Bool}
    {text : List Char}
    (free : ∀ character ∈ text, kind character = false) :
    dropEnd kind text = text := by
  have freeReversed : ∀ character ∈ text.reverse, kind character = false := by
    intro character member
    exact free character (List.mem_reverse.mp member)
  rw [dropEnd, dropWhile_eq_self freeReversed, List.reverse_reverse]

/-- What is kept of a text is in front of characters of the kind that is dropped,
and does not end with one of them. -/
theorem dropEnd_eq_iff
    {kind : Char → Bool}
    {text kept : List Char}
    (ends : ∀ last, kept.getLast? = some last → kind last = false) :
    dropEnd kind text = kept ↔
      ∃ dropped, text = kept ++ dropped ∧
        ∀ character ∈ dropped, kind character = true := by
  constructor
  · rintro rfl
    refine ⟨(text.reverse.takeWhile kind).reverse, ?_, ?_⟩
    · rw [dropEnd, ← List.reverse_append, List.takeWhile_append_dropWhile,
        List.reverse_reverse]
    · intro character member
      exact List.all_eq_true.mp List.all_takeWhile character
        (List.mem_reverse.mp member)
  · rintro ⟨dropped, rfl, areDropped⟩
    have areDroppedReversed :
        ∀ character ∈ dropped.reverse, kind character = true := by
      intro character member
      exact areDropped character (List.mem_reverse.mp member)
    rw [dropEnd, List.reverse_append,
      List.dropWhile_append_of_pos areDroppedReversed]
    cases reversed : kept.reverse with
    | nil => exact (List.reverse_eq_nil_iff.mp reversed).symm
    | cons last rest =>
        have isLast : kept.getLast? = some last := by
          rw [List.getLast?_eq_head?_reverse, reversed, List.head?_cons]
        rw [List.dropWhile_cons_of_neg (Bool.eq_false_iff.mp (ends last isLast)),
          ← reversed, List.reverse_reverse]

/-- A text without white space is left as it is. -/
theorem trim_eq_self
    {text : List Char}
    (free : ∀ character ∈ text, isWhiteSpace character = false) :
    trim text = text := by
  rw [trim, dropWhile_eq_self free]
  exact dropEnd_eq_self free

end Text
end CalculatorTrials
