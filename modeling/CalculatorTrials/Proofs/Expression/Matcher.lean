import CalculatorTrials.Proofs.Expression.Nesting
import CalculatorTrials.Proofs.Text.Digits

/-!
# Patterns for literals

Patterns for the start of a text that prefer some of their matches to others, and
the pattern of literals among them. A literal whose numbers are none too large is
matched as far as it goes.
-/

namespace CalculatorTrials

open Text

namespace Recognizer

/-! ## Patterns -/

/-- A pattern for the start of a text, as all that it can leave of the text, what
it prefers first. -/
abbrev Matcher := List Char → List (List Char)

namespace Matcher

/-- A character of a kind. -/
def oneOf (kind : Char → Bool) : Matcher
  | [] => []
  | character :: rest => if kind character then [rest] else []

/-- A match, and another one behind it. -/
def andThen (first second : Matcher) : Matcher :=
  fun text => (first text).flatMap second

/-- A match of either pattern, and rather of the first one. -/
def orElse (first second : Matcher) : Matcher :=
  fun text => first text ++ second text

/-- A match or nothing, and rather a match. -/
def optional (matcher : Matcher) : Matcher :=
  matcher.orElse fun text => [text]

/-- As many matches as there are, up to a number. -/
def upTo : (count : Nat) → Matcher → Matcher
  | 0, _ => fun text => [text]
  | count + 1, matcher => optional (matcher.andThen (upTo count matcher))

/-- A plus or a minus sign. -/
def sign : Matcher := oneOf fun character => character == '+' || character == '-'

/-- A number from zero to ten. -/
def upToTen : Matcher :=
  ((oneOf (· == '1')).andThen (oneOf (· == '0'))).orElse (oneOf Char.isDigit)

/-- A number of at most three digits, without zeros in front. -/
def upToThreeDigits : Matcher :=
  (oneOf (· == '0')).orElse
    ((oneOf fun character => character.isDigit && character != '0').andThen
      (upTo 2 (oneOf Char.isDigit)))

/-- An exponent. -/
def exponent : Matcher :=
  (oneOf fun character => character == 'e' || character == 'E').andThen
    (sign.optional.andThen upToTen)

/-- A literal. -/
def literal : Matcher :=
  sign.optional.andThen
    (upToTen.andThen
      ((oneOf (· == '.')).andThen
        (upToThreeDigits.andThen exponent.optional)))

/-! ## Ends of texts -/

/-- All that the pattern leaves of a text are ends of it. -/
def Proper (matcher : Matcher) : Prop :=
  ∀ text, ∀ rest ∈ matcher text, rest <:+ text

theorem proper_oneOf (kind : Char → Bool) : (oneOf kind).Proper := by
  intro text rest member
  cases text with
  | nil => cases member
  | cons character others =>
      rw [oneOf] at member
      split at member
      · obtain rfl := List.mem_singleton.mp member
        exact List.suffix_cons character rest
      · cases member

/-- What leaves all of a text leaves an end of it. -/
theorem proper_nothing : Proper fun text => [text] := by
  intro text rest member
  obtain rfl := List.mem_singleton.mp member
  exact List.suffix_refl rest

theorem Proper.andThen
    {first second : Matcher}
    (proper : first.Proper)
    (properThen : second.Proper) :
    (first.andThen second).Proper := by
  intro text rest member
  obtain ⟨middle, leaves, leavesThen⟩ := List.mem_flatMap.mp member
  exact (properThen middle rest leavesThen).trans (proper text middle leaves)

theorem Proper.orElse
    {first second : Matcher}
    (proper : first.Proper)
    (otherProper : second.Proper) :
    (first.orElse second).Proper := by
  intro text rest member
  rcases List.mem_append.mp member with leaves | otherLeaves
  · exact proper text rest leaves
  · exact otherProper text rest otherLeaves

theorem Proper.optional
    {matcher : Matcher}
    (proper : matcher.Proper) :
    matcher.optional.Proper :=
  proper.orElse proper_nothing

theorem Proper.upTo
    {matcher : Matcher}
    (proper : matcher.Proper)
    (count : Nat) :
    (Matcher.upTo count matcher).Proper := by
  induction count with
  | zero => exact proper_nothing
  | succ count inductionHypothesis =>
      exact (proper.andThen inductionHypothesis).optional

theorem proper_upToTen : upToTen.Proper :=
  ((proper_oneOf _).andThen (proper_oneOf _)).orElse (proper_oneOf _)

theorem proper_upToThreeDigits : upToThreeDigits.Proper :=
  (proper_oneOf _).orElse
    ((proper_oneOf _).andThen ((proper_oneOf _).upTo 2))

theorem proper_exponent : exponent.Proper :=
  (proper_oneOf _).andThen ((proper_oneOf _).optional.andThen proper_upToTen)

/-- A literal leaves ends of the text. -/
theorem proper_literal : literal.Proper :=
  (proper_oneOf _).optional.andThen
    (proper_upToTen.andThen
      ((proper_oneOf _).andThen
        (proper_upToThreeDigits.andThen proper_exponent.optional)))

/-! ## Preferred matches -/

/-- The match that the pattern prefers leaves the rest of the text. -/
def Leaves (matcher : Matcher) (text rest : List Char) : Prop :=
  (matcher text).head? = some rest

theorem leaves_oneOf
    {kind : Char → Bool}
    {character : Char}
    (isKind : kind character = true)
    (rest : List Char) :
    (oneOf kind).Leaves (character :: rest) rest := by
  simp [Leaves, oneOf, isKind]

theorem oneOf_eq_nil
    {kind : Char → Bool}
    {text : List Char}
    (without : Without kind text) :
    oneOf kind text = [] := by
  cases text with
  | nil => rfl
  | cons character rest => simp [oneOf, without character rfl]

theorem andThen_eq_nil
    {first : Matcher}
    {text : List Char}
    (fails : first text = [])
    (second : Matcher) :
    first.andThen second text = [] := by
  rw [andThen, fails, List.flatMap_nil]

theorem Leaves.andThen
    {first second : Matcher}
    {text middle rest : List Char}
    (leaves : first.Leaves text middle)
    (leavesThen : second.Leaves middle rest) :
    (first.andThen second).Leaves text rest := by
  obtain ⟨others, matches_⟩ := List.head?_eq_some_iff.mp leaves
  rw [Leaves, Matcher.andThen, matches_, List.flatMap_cons, List.head?_append,
    leavesThen]
  rfl

theorem Leaves.orElse
    {first : Matcher}
    {text rest : List Char}
    (leaves : first.Leaves text rest)
    (second : Matcher) :
    (first.orElse second).Leaves text rest := by
  rw [Leaves, Matcher.orElse, List.head?_append, leaves]
  rfl

theorem leaves_orElse
    {first second : Matcher}
    {text rest : List Char}
    (fails : first text = [])
    (leaves : second.Leaves text rest) :
    (first.orElse second).Leaves text rest := by
  rw [Leaves, orElse, fails]
  exact leaves

theorem leaves_optional
    {matcher : Matcher}
    {text : List Char}
    (fails : matcher text = []) :
    matcher.optional.Leaves text text :=
  leaves_orElse fails rfl

/-- As many characters of a kind as there are up to a number, if there are no
more than that. -/
theorem leaves_upTo
    {kind : Char → Bool}
    {count : Nat}
    {characters rest : List Char}
    (fits : characters.length ≤ count)
    (areKind : ∀ character ∈ characters, kind character = true)
    (without : Without kind rest) :
    (upTo count (oneOf kind)).Leaves (characters ++ rest) rest := by
  induction characters generalizing count with
  | nil =>
      cases count with
      | zero => rfl
      | succ count =>
          exact leaves_optional (andThen_eq_nil (oneOf_eq_nil without) _)
  | cons character characters inductionHypothesis =>
      obtain ⟨isKind, others⟩ := List.forall_mem_cons.mp areKind
      cases count with
      | zero => cases fits
      | succ count =>
          apply Leaves.orElse
          exact (leaves_oneOf isKind _).andThen
            (inductionHypothesis (Nat.le_of_succ_le_succ fits) others)

/-! ## Literals -/

/-- A number up to ten, if no digit is behind it. -/
theorem leaves_upToTen
    {number : Nat}
    (le : number ≤ 10)
    {rest : List Char}
    (without : Without Char.isDigit rest) :
    upToTen.Leaves (Nat.toDigits 10 number ++ rest) rest := by
  rcases Nat.lt_or_eq_of_le le with below | rfl
  · have isDigit : number.digitChar.isDigit = true := by
      rw [Nat.isDigit_digitChar]
      exact decide_eq_true below
    have notTen :
        ((oneOf (· == '1')).andThen (oneOf (· == '0')))
          (number.digitChar :: rest) = [] := by
      have noZero : oneOf (· == '0') rest = [] :=
        oneOf_eq_nil fun character first => by
          rw [beq_eq_false_iff_ne]
          rintro rfl
          cases without _ first
      simp only [andThen, oneOf]
      split <;> simp [noZero]
    rw [Nat.toDigits_of_lt_base below]
    exact leaves_orElse notTen (leaves_oneOf isDigit rest)
  · exact ((leaves_oneOf rfl ('0' :: rest)).andThen
      (leaves_oneOf rfl rest)).orElse _

/-- A number of at most three digits, if no digit is behind it. -/
theorem leaves_upToThreeDigits
    {number : Nat}
    (le : number ≤ 999)
    {rest : List Char}
    (without : Without Char.isDigit rest) :
    upToThreeDigits.Leaves (Nat.toDigits 10 number ++ rest) rest := by
  rcases Nat.eq_zero_or_pos number with rfl | positive
  · exact (leaves_oneOf rfl rest).orElse _
  · obtain ⟨digit, digits, written, notZero⟩ := exists_toDigits_eq_cons positive
    have length : (digit :: digits).length ≤ 3 := by
      rw [← written, Nat.length_toDigits_le_iff (by decide) (by decide)]
      exact Nat.lt_succ_of_le le
    have areDigits : ∀ character ∈ digit :: digits, character.isDigit = true := by
      intro character member
      rw [← written] at member
      exact isDigit_of_mem_toDigits member
    obtain ⟨isDigit, others⟩ := List.forall_mem_cons.mp areDigits
    rw [written]
    refine leaves_orElse (by simp [oneOf, notZero]) ?_
    exact (leaves_oneOf (by simp [isDigit, notZero]) _).andThen
      (leaves_upTo (Nat.le_of_succ_le_succ length) others without)

/-- There is no sign in front of the digits of a number. -/
theorem leaves_noSign (number : Nat) (rest : List Char) :
    sign.optional.Leaves (Nat.toDigits 10 number ++ rest)
      (Nat.toDigits 10 number ++ rest) := by
  apply leaves_optional
  apply oneOf_eq_nil
  refine without_toDigits (fun character isDigit => ?_) number rest
  have notPlus : character ≠ '+' := ne_of_isDigit isDigit rfl
  have notMinus : character ≠ '-' := ne_of_isDigit isDigit rfl
  simp [notPlus, notMinus]

/-- An exponent with its marker, if no digit is behind it. -/
theorem leaves_exponent
    (marker : Marker)
    {size : Nat}
    (le : size ≤ 10)
    {rest : List Char}
    (without : Without Char.isDigit rest) :
    exponent.Leaves ((Event.exponent marker size).text ++ rest) rest := by
  have number := leaves_upToTen le without
  have unsigned := (leaves_noSign size rest).andThen number
  have signed {character : Char}
      (isSign : (character == '+' || character == '-') = true) :
      (sign.optional.andThen upToTen).Leaves
        (character :: (Nat.toDigits 10 size ++ rest)) rest :=
    ((leaves_oneOf isSign _).orElse _).andThen number
  rw [Event.text, List.append_assoc]
  cases marker with
  | lower | upper => exact (leaves_oneOf rfl _).andThen unsigned
  | lowerPlus | lowerMinus | upperPlus | upperMinus =>
      exact (leaves_oneOf rfl _).andThen (signed rfl)

/-- The end of a literal behind its digits, which is not a digit. -/
theorem leaves_optional_exponent
    {exponents : Option (Marker × Nat)}
    (le : ∀ marker size, exponents = some (marker, size) → size ≤ 10)
    {rest : List Char}
    (without : Without Char.isDigit rest)
    (noMarker : Without (fun letter => letter == 'e' || letter == 'E') rest) :
    ∃ tail,
      tail = (exponents.map fun (marker, size) =>
          Event.exponent marker size).toList.flatMap Event.text ++ rest ∧
        exponent.optional.Leaves tail rest ∧ Without Char.isDigit tail := by
  refine ⟨_, rfl, ?_⟩
  cases exponents with
  | none =>
      exact ⟨leaves_optional (andThen_eq_nil (oneOf_eq_nil noMarker) _), without⟩
  | some marked =>
      obtain ⟨marker, size⟩ := marked
      have leaves := leaves_exponent marker (le marker size rfl) without
      have same :
          ((some (marker, size)).map fun (marker, size) =>
              Event.exponent marker size).toList.flatMap Event.text ++ rest =
            (Event.exponent marker size).text ++ rest := by
        simp
      rw [same]
      refine ⟨leaves.orElse _, ?_⟩
      cases marker <;> exact without_cons rfl _

/-- A literal whose numbers are none too large is matched as far as it goes, if
nothing behind it could belong to it. -/
theorem leaves_literal
    {number : Literal}
    (inRange : number.InRange)
    {rest : List Char}
    (without : Without Char.isDigit rest)
    (noMarker : Without (fun letter => letter == 'e' || letter == 'E') rest) :
    literal.Leaves (number.events.flatMap Event.text ++ rest) rest := by
  obtain ⟨sign, whole, fraction, exponents⟩ := number
  obtain ⟨tail, written, tailLeaves, tailWithout⟩ :=
    leaves_optional_exponent inRange.size_le without noMarker
  have same :
      (Literal.mk sign whole fraction exponents).events.flatMap Event.text ++
          rest =
        sign.text ++ (Nat.toDigits 10 whole ++
          '.' :: (Nat.toDigits 10 fraction ++ tail)) := by
    simp [Literal.events, Event.text, written]
  have point : Without Char.isDigit
      ('.' :: (Nat.toDigits 10 fraction ++ tail)) :=
    without_cons rfl _
  have pointLeaves :
      (oneOf (· == '.')).Leaves ('.' :: (Nat.toDigits 10 fraction ++ tail))
        (Nat.toDigits 10 fraction ++ tail) :=
    leaves_oneOf rfl _
  have unsigned := (leaves_upToTen inRange.whole_le point).andThen
    (pointLeaves.andThen
      ((leaves_upToThreeDigits inRange.fraction_le tailWithout).andThen
        tailLeaves))
  rw [same]
  cases sign with
  | unsigned => exact (leaves_noSign whole _).andThen unsigned
  | plus | minus =>
      exact ((leaves_oneOf rfl _).orElse _).andThen unsigned

end Matcher

end Recognizer
end CalculatorTrials
