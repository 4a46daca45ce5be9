import CalculatorTrials.Proofs.Expression.Matcher

/-!
# Recognizing expressions

A recognizer for texts of test cases that does not know how they are made. It
reads a text from its start, rule by rule, and gives what is left of it. Literals
are matched by their pattern. The texts of all derivations whose numbers are none
too large are recognized, and nothing of them is left.
-/

namespace CalculatorTrials

open Text

namespace Recognizer

/-! ## Rules -/

/-- What is left of a text: an end of it. -/
structure Rest (text : List Char) where
  left : List Char
  suffix : left <:+ text

namespace Rest

/-- All of a text. -/
def all (text : List Char) : Rest text := ⟨text, List.suffix_refl text⟩

/-- What is left of the end of a text is left of the text. -/
def within (rest : Rest text) (suffix : text <:+ longer) : Rest longer :=
  ⟨rest.left, rest.suffix.trans suffix⟩

/-- What is left of the rest behind a character of a kind at its start. -/
def after? (kind : Char → Bool) : Rest text → Option (Rest text)
  | ⟨[], _⟩ => none
  | ⟨character :: rest, suffix⟩ =>
      if kind character then
        some ⟨rest, (List.suffix_cons character rest).trans suffix⟩
      else none

end Rest

/-- What the preferred match of a literal leaves of a text. -/
def literal? (text : List Char) : Option (Rest text) :=
  (Matcher.literal text).attach.head?.map fun found =>
    ⟨found.val, Matcher.proper_literal text found.val found.property⟩

-- On the same text a rule turns to rules of lower levels only, and a character
-- that is read makes up for the way back to the highest one.
mutual

/-- What is left of a text behind an expression. -/
def expression? (text : List Char) : Option (Rest text) := do
  let first ← term? text
  have := first.suffix.length_le
  let last ← otherTerms? first.left
  return last.within first.suffix
termination_by 3 * text.length + 2

/-- What is left of a text behind the further terms of an expression. -/
def otherTerms? : (text : List Char) → Option (Rest text)
  | [] => some (.all [])
  | character :: rest =>
      if character == '+' || character == '-' then do
        let first ← term? rest
        have := first.suffix.length_le
        let last ← otherTerms? first.left
        return last.within
          (first.suffix.trans (List.suffix_cons character rest))
      else some (.all (character :: rest))
termination_by text => 3 * text.length + 1

/-- What is left of a text behind a term. -/
def term? (text : List Char) : Option (Rest text) := do
  let first ← primary? text
  have := first.suffix.length_le
  let last ← otherPrimaries? first.left
  return last.within first.suffix
termination_by 3 * text.length + 1

/-- What is left of a text behind the further primaries of a term. -/
def otherPrimaries? : (text : List Char) → Option (Rest text)
  | [] => some (.all [])
  | character :: rest =>
      if character == '*' || character == '/' then do
        let first ← primary? rest
        have := first.suffix.length_le
        let last ← otherPrimaries? first.left
        return last.within
          (first.suffix.trans (List.suffix_cons character rest))
      else some (.all (character :: rest))
termination_by text => 3 * text.length

/-- What is left of a text behind a primary. -/
def primary? : (text : List Char) → Option (Rest text)
  | [] => literal? []
  | character :: rest =>
      if character == '(' then do
        let body ← expression? rest
        (body.within (List.suffix_cons character rest)).after? (· == ')')
      else literal? (character :: rest)
termination_by text => 3 * text.length

end

/-- The text that is left, if a rule has a match. -/
def left? (found : Option (Rest text)) : Option (List Char) :=
  found.map Rest.left

/-- What is left of a text behind what a rule recognizes at its start. -/
def rest? : Rule → List Char → Option (List Char)
  | .expression, text => left? (expression? text)
  | .term, text => left? (term? text)
  | .primary, text => left? (primary? text)

open Matcher

/-! ## What is behind a primary -/

/-- The characters that can stand behind a primary. -/
def behindPrimary : List Char := ['+', '-', '*', '/', ')']

/-- Nothing at the start of the text could belong to a primary in front of it. -/
def EndsPrimary (rest : List Char) : Prop :=
  ∀ character ∈ rest.head?, character ∈ behindPrimary

theorem EndsPrimary.without
    {rest : List Char}
    (ends : EndsPrimary rest)
    {kind : Char → Bool}
    (free : behindPrimary.any kind = false) :
    Without kind rest :=
  fun character first => Bool.eq_false_iff.mpr
    (List.any_eq_false.mp free character (ends character first))

/-! ## What the rules leave -/

theorem left?_literal? (text : List Char) :
    left? (literal? text) = (literal text).head? := by
  rw [left?, literal?, Option.map_map, ← List.head?_map]
  congr 1
  exact List.attach_map_subtype_val _

/-- What others leave of what is left first is left of both. -/
theorem left?_bind
    (first : Option (Rest text))
    (others : (text : List Char) → Option (Rest text))
    (suffix : ∀ rest : Rest text, rest.left <:+ longer) :
    left? (do
        let rest ← first
        let last ← others rest.left
        return last.within (suffix rest)) =
      (left? first).bind fun rest => left? (others rest) := by
  cases first with
  | none => rfl
  | some rest =>
      cases last : others rest.left <;> simp [left?, last, Rest.within]

theorem left?_expression? (text : List Char) :
    left? (expression? text) =
      (left? (term? text)).bind fun rest => left? (otherTerms? rest) := by
  rw [expression?]
  exact left?_bind _ otherTerms? _

theorem left?_term? (text : List Char) :
    left? (term? text) =
      (left? (primary? text)).bind fun rest =>
        left? (otherPrimaries? rest) := by
  rw [term?]
  exact left?_bind _ otherPrimaries? _

/-- Behind an operator there is one more term. -/
theorem left?_otherTerms?_operator (operator : Additive) (text : List Char) :
    left? (otherTerms? ((Operator.additive operator).character :: text)) =
      (left? (term? text)).bind fun rest => left? (otherTerms? rest) := by
  have isOperator : ((Operator.additive operator).character == '+' ||
      (Operator.additive operator).character == '-') = true := by
    cases operator <;> rfl
  rw [otherTerms?, if_pos isOperator]
  exact left?_bind _ otherTerms? _

/-- Behind an operator there is one more primary. -/
theorem left?_otherPrimaries?_operator
    (operator : Multiplicative)
    (text : List Char) :
    left? (otherPrimaries?
        ((Operator.multiplicative operator).character :: text)) =
      (left? (primary? text)).bind fun rest =>
        left? (otherPrimaries? rest) := by
  have isOperator : ((Operator.multiplicative operator).character == '*' ||
      (Operator.multiplicative operator).character == '/') = true := by
    cases operator <;> rfl
  rw [otherPrimaries?, if_pos isOperator]
  exact left?_bind _ otherPrimaries? _

/-- Behind a term no primary of it follows, unless an operator does. -/
theorem left?_otherPrimaries?
    {rest : List Char}
    (without :
      Without (fun character => character == '*' || character == '/') rest) :
    left? (otherPrimaries? rest) = some rest := by
  cases rest with
  | nil => rw [otherPrimaries?]; rfl
  | cons character rest =>
      rw [otherPrimaries?, if_neg (Bool.eq_false_iff.mp (without character rfl))]
      rfl

/-- Behind an expression no term of it follows, unless an operator does. -/
theorem left?_otherTerms?
    {rest : List Char}
    (without :
      Without (fun character => character == '+' || character == '-') rest) :
    left? (otherTerms? rest) = some rest := by
  cases rest with
  | nil => rw [otherTerms?]; rfl
  | cons character rest =>
      rw [otherTerms?, if_neg (Bool.eq_false_iff.mp (without character rfl))]
      rfl

/-- A primary that does not start as a group does is a literal. -/
theorem left?_primary?
    {text : List Char}
    (without : Without (· == '(') text) :
    left? (primary? text) = (literal text).head? := by
  cases text with
  | nil => rw [primary?, left?_literal?]
  | cons character rest =>
      rw [primary?, if_neg (Bool.eq_false_iff.mp (without character rfl)),
        left?_literal?]

/-- A group is an expression and what closes it. -/
theorem left?_primary?_group
    {text rest : List Char}
    (body : left? (expression? text) = some (')' :: rest)) :
    left? (primary? ('(' :: text)) = some rest := by
  obtain ⟨⟨left, suffix⟩, found, same⟩ := Option.map_eq_some_iff.mp body
  obtain rfl : left = ')' :: rest := same
  rw [primary?, if_pos (beq_self_eq_true '('), found]
  rfl

/-! ## Texts of derivations -/

/-- How the rules treat a text with something behind it: they leave what is
behind a primary, and go on behind the primaries of a term and the terms of an
expression. -/
def Passes : Rule → List Char → Prop
  | .primary, text => ∀ rest, EndsPrimary rest →
      left? (primary? (text ++ rest)) = some rest
  | .term, text => ∀ rest, EndsPrimary rest →
      left? (term? (text ++ rest)) = left? (otherPrimaries? rest)
  | .expression, text => ∀ rest, EndsPrimary rest →
      left? (otherPrimaries? rest) = some rest →
      left? (expression? (text ++ rest)) = left? (otherTerms? rest)

theorem endsPrimary_cons
    {character : Char}
    (member : character ∈ behindPrimary)
    (rest : List Char) :
    EndsPrimary (character :: rest) := by
  intro first isFirst
  obtain rfl := Option.some.inj isFirst
  exact member

theorem endsPrimary_operator (operator : Operator) (rest : List Char) :
    EndsPrimary (operator.character :: rest) := by
  cases operator using Operator.cases_four with
  | add | sub | mul | div => exact endsPrimary_cons (by decide) rest

/-- A literal does not start as a group does. -/
theorem without_literal (number : Literal) (rest : List Char) :
    Without (· == '(') ((Derivation.literal number).text ++ rest) := by
  obtain ⟨sign, whole, fraction, exponents⟩ := number
  have written : ∃ later,
      (Derivation.literal ⟨sign, whole, fraction, exponents⟩).text ++ rest =
        sign.text ++ (Nat.toDigits 10 whole ++ later) := by
    simp [Derivation.text, Literal.events, Event.text]
  obtain ⟨later, same⟩ := written
  rw [same]
  cases sign with
  | unsigned =>
      refine without_toDigits (fun character isDigit => ?_) whole later
      exact beq_eq_false_iff_ne.mpr (ne_of_isDigit isDigit rfl)
  | plus | minus => exact without_cons rfl _

theorem passes_literal
    {number : Literal}
    (inRange : number.InRange) :
    Passes .primary (Derivation.literal number).text := by
  intro rest ends
  rw [left?_primary? (without_literal number rest), Derivation.text,
    Derivation.events_literal]
  exact leaves_literal inRange (ends.without rfl) (ends.without rfl)

theorem passes_group
    {body : Derivation .expression}
    (passes : Passes .expression body.text) :
    Passes .primary (Derivation.group body).text := by
  intro rest _
  have text : (Derivation.group body).text ++ rest =
      '(' :: (body.text ++ ')' :: rest) := by
    simp [Derivation.text, Event.text]
  rw [text]
  apply left?_primary?_group
  rw [passes _ (endsPrimary_cons (by decide) rest)
      (left?_otherPrimaries? (without_cons rfl rest)),
    left?_otherTerms? (without_cons rfl rest)]

theorem passes_factor
    {primary : Derivation .primary}
    (passes : Passes .primary primary.text) :
    Passes .term (Derivation.factor primary).text := by
  intro rest ends
  have first : left? (primary? ((Derivation.factor primary).text ++ rest)) =
      some rest :=
    passes rest ends
  rw [left?_term?, first]
  rfl

theorem passes_product
    {left : Derivation .term}
    (operator : Multiplicative)
    {right : Derivation .primary}
    (first : Passes .term left.text)
    (second : Passes .primary right.text) :
    Passes .term (Derivation.product left operator right).text := by
  intro rest ends
  have text : (Derivation.product left operator right).text ++ rest =
      left.text ++
        (Operator.multiplicative operator).character ::
          (right.text ++ rest) := by
    simp [Derivation.text, Event.text]
  rw [text, first _ (endsPrimary_operator _ _),
    left?_otherPrimaries?_operator, second rest ends]
  rfl

theorem passes_summand
    {term : Derivation .term}
    (passes : Passes .term term.text) :
    Passes .expression (Derivation.summand term).text := by
  intro rest ends endsTerm
  have first : left? (term? ((Derivation.summand term).text ++ rest)) =
      some rest :=
    (passes rest ends).trans endsTerm
  rw [left?_expression?, first]
  rfl

theorem passes_sum
    {left : Derivation .expression}
    (operator : Additive)
    {right : Derivation .term}
    (first : Passes .expression left.text)
    (second : Passes .term right.text) :
    Passes .expression (Derivation.sum left operator right).text := by
  intro rest ends endsTerm
  have text : (Derivation.sum left operator right).text ++ rest =
      left.text ++
        (Operator.additive operator).character :: (right.text ++ rest) := by
    simp [Derivation.text, Event.text]
  have noPrimary :
      Without (fun character => character == '*' || character == '/')
        ((Operator.additive operator).character :: (right.text ++ rest)) := by
    cases operator <;> exact without_cons rfl _
  rw [text, first _ (endsPrimary_operator _ _)
      (left?_otherPrimaries? noPrimary),
    left?_otherTerms?_operator, second rest ends, endsTerm]
  rfl

/-- Every rule passes the texts of its derivations. -/
theorem passes_text
    {derivation : Derivation rule}
    (inRange : derivation.InRange) :
    Passes rule derivation.text := by
  induction derivation with
  | literal number =>
      exact passes_literal (inRange number (List.mem_singleton_self number))
  | group body inductionHypothesis =>
      exact passes_group (inductionHypothesis inRange)
  | factor primary inductionHypothesis =>
      exact passes_factor (inductionHypothesis inRange)
  | product left operator right leftHypothesis rightHypothesis =>
      obtain ⟨leftRange, rightRange⟩ := List.forall_mem_append.mp inRange
      exact passes_product operator (leftHypothesis leftRange)
        (rightHypothesis rightRange)
  | summand term inductionHypothesis =>
      exact passes_summand (inductionHypothesis inRange)
  | sum left operator right leftHypothesis rightHypothesis =>
      obtain ⟨leftRange, rightRange⟩ := List.forall_mem_append.mp inRange
      exact passes_sum operator (leftHypothesis leftRange)
        (rightHypothesis rightRange)

/-- The text of a derivation is recognized by its rule, and nothing is left. -/
theorem rest?_text
    {derivation : Derivation rule}
    (inRange : derivation.InRange) :
    rest? rule derivation.text = some [] := by
  have passes := passes_text inRange
  have ends : EndsPrimary [] := nofun
  have endsTerm : left? (otherPrimaries? []) = some [] :=
    left?_otherPrimaries? (without_nil _)
  have endsExpression : left? (otherTerms? []) = some [] :=
    left?_otherTerms? (without_nil _)
  rw [← List.append_nil derivation.text]
  cases rule with
  | expression => exact (passes [] ends endsTerm).trans endsExpression
  | term => exact (passes [] ends).trans endsTerm
  | primary => exact passes [] ends

example : rest? .expression "1.0--2.0*(+3.5e+1/4.0)".toList = some [] := by
  cbv

end Recognizer
end CalculatorTrials
