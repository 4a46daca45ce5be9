import CalculatorTrials.Calculation.Reader
import CalculatorTrials.Proofs.Numeral.Letters

/-!
# The scan of a numeral

The scan accepts the numerals of the grammar and no other list of letters, and
the number that it ends with is the one that the grammar gives. One direction
follows a numeral letter by letter, the other keeps what the letters read so far
are the start of.
-/

namespace CalculatorTrials
namespace Numeral

open Grammar
open Reader (expectsInside)

/-! ## From the scan to the grammar -/

/-- The terminal of a digit. -/
theorem terminal_eq_digit
    {terminal : Terminal}
    {character : Char}
    (admitted : terminal.admits character = true)
    (isDigit : character.isDigit = true) :
    terminal = .digit := by
  cases terminal <;> simp_all [Terminal.admits, isBlank] <;>
    rcases admitted with rfl | rfl <;> cases isDigit

/-- The terminal of a point. -/
theorem terminal_eq_point
    {terminal : Terminal}
    (admitted : terminal.admits '.' = true) :
    terminal = .point := by
  cases terminal <;> first | rfl | cases admitted

/-- The terminal of the letter of an exponent. -/
theorem terminal_eq_exponentLetter
    {terminal : Terminal}
    {character : Char}
    (admitted : terminal.admits character = true)
    (isLetter : character = 'e' ∨ character = 'E') :
    terminal = .exponentLetter := by
  rcases isLetter with rfl | rfl <;>
    cases terminal <;> first | rfl | cases admitted

/-- A scan holds the letter that it starts with. -/
theorem Scan.holds_start
    {letter : Letter}
    {scan : Scan}
    (starts : Scan.start? letter.character = some scan) :
    scan.Holds [letter] := by
  unfold Scan.start? at starts
  split at starts
  · next isPoint =>
      obtain rfl := Option.some.inj starts
      exact ⟨letter, terminal_eq_point (isPoint ▸ letter.admitted), rfl⟩
  · obtain ⟨digit, numbered, rfl⟩ := Option.map_eq_some_iff.mp starts
    obtain ⟨isDigit, rfl⟩ := isDigit_of_digit? numbered
    refine ⟨?_, List.cons_ne_nil _ _, (natural_singleton letter).symm⟩
    simp [terminal_eq_digit letter.admitted isDigit]

/-- A digit that is read is a letter of its kind. -/
theorem digit_of_digit?
    {letter : Letter}
    {digit : Nat}
    (numbered : digit? letter.character = some digit) :
    letter.terminal = .digit ∧
      digit = letter.character.toNat - '0'.toNat := by
  obtain ⟨isDigit, value⟩ := isDigit_of_digit? numbered
  exact ⟨terminal_eq_digit letter.admitted isDigit, value⟩

/-- What a scan holds grows by a digit that it reads. -/
theorem Scan.Holds.step_digit
    {scan next : Scan}
    {letters : List Letter}
    {letter : Letter}
    {digit : Nat}
    (holds : scan.Holds letters)
    (numbered : digit? letter.character = some digit)
    (reads : scan.step? letter.character = some next) :
    next.Holds (letters ++ [letter]) := by
  obtain ⟨isDigit, rfl⟩ := digit_of_digit? numbered
  cases scan <;>
    simp only [Scan.step?, numbered, Option.some.injEq] at reads <;>
    subst reads
  case whole digits =>
    obtain ⟨isDigits, _, rfl⟩ := holds
    refine ⟨?_, by simp, (natural_append_singleton ..).symm⟩
    simp [isDigits, isDigit]
  case point =>
    obtain ⟨point, isPoint, rfl⟩ := holds
    exact ⟨[], point, [letter], rfl, digits_nil, isPoint, by simp [isDigit],
      by simp, by simp, rfl⟩
  case fraction digits places =>
    obtain ⟨left, point, right, rfl, leftDigits, isPoint, rightDigits,
      nonempty, rfl, rfl⟩ := holds
    refine ⟨left, point, right ++ [letter], by simp, leftDigits, isPoint,
      by simp [rightDigits, isDigit], by simp, ?_, by simp⟩
    rw [← List.append_assoc, natural_append_singleton]
  case marker digits places =>
    obtain ⟨mantissa, left, right, marker, rfl, isMantissa, isMarker,
      rfl, rfl⟩ := holds
    exact ⟨mantissa, left, right, marker, [], [letter], by simp, isMantissa,
      isMarker, rfl, rfl, .inl ⟨rfl, rfl⟩, by simp [isDigit], by simp, by simp⟩
  case signed digits places negative =>
    obtain ⟨mantissa, left, right, marker, sign, rfl, isMantissa, isMarker,
      isSign, rfl, rfl, rfl⟩ := holds
    exact ⟨mantissa, left, right, marker, [sign], [letter], by simp,
      isMantissa, isMarker, rfl, rfl, .inr ⟨sign, rfl, isSign, rfl⟩,
      by simp [isDigit], by simp, by simp⟩
  case exponent digits places negative power =>
    obtain ⟨mantissa, left, right, marker, signs, exponent, rfl, isMantissa,
      isMarker, rfl, rfl, isSigned, isDigits, nonempty, rfl⟩ := holds
    exact ⟨mantissa, left, right, marker, signs, exponent ++ [letter],
      by simp, isMantissa, isMarker, rfl, rfl, isSigned,
      by simp [isDigits, isDigit], by simp, (natural_append_singleton ..).symm⟩

/-- What a scan holds grows by the point, the letter of an exponent or its sign
that it reads. -/
theorem Scan.Holds.step_mark
    {scan next : Scan}
    {letters : List Letter}
    {letter : Letter}
    (holds : scan.Holds letters)
    (expected : expectsInside scan letter.terminal = true)
    (numbered : digit? letter.character = none)
    (reads : scan.step? letter.character = some next) :
    next.Holds (letters ++ [letter]) := by
  cases scan <;> simp only [Scan.step?, numbered, reduceCtorEq] at reads
  case whole digits =>
    obtain ⟨isDigits, nonempty, rfl⟩ := holds
    split at reads
    · next isPoint =>
        obtain rfl := Option.some.inj reads
        exact ⟨letters, letter, [], rfl, isDigits,
          terminal_eq_point (isPoint ▸ letter.admitted), digits_nil,
          .inl nonempty, by simp, rfl⟩
    · split at reads
      · next isLetter =>
          obtain rfl := Option.some.inj reads
          exact ⟨letters, letters, [], letter, rfl, .whole isDigits nonempty,
            terminal_eq_exponentLetter letter.admitted isLetter, by simp, rfl⟩
      · cases reads
  case fraction digits places =>
    obtain ⟨left, point, right, rfl, leftDigits, isPoint, rightDigits,
      nonempty, rfl, rfl⟩ := holds
    split at reads
    · next isLetter =>
        obtain rfl := Option.some.inj reads
        exact ⟨left ++ point :: right, left, right, letter, rfl,
          .fraction leftDigits isPoint rightDigits nonempty,
          terminal_eq_exponentLetter letter.admitted isLetter, rfl, rfl⟩
    · cases reads
  case marker digits places =>
    obtain ⟨mantissa, left, right, marker, rfl, isMantissa, isMarker,
      rfl, rfl⟩ := holds
    have notDigit : letter.terminal ≠ .digit := by
      intro isDigit
      rw [digit?_of_digit isDigit] at numbered
      cases numbered
    have isSign : letter.terminal = .exponentSign := by
      cases terminal : letter.terminal <;> simp_all [expectsInside]
    split at reads
    · next isPlus =>
        obtain rfl := Option.some.inj reads
        exact ⟨mantissa, left, right, marker, letter, by simp, isMantissa,
          isMarker, isSign, rfl, rfl, by rw [isPlus]; rfl⟩
    · split at reads
      · next isMinus =>
          obtain rfl := Option.some.inj reads
          exact ⟨mantissa, left, right, marker, letter, by simp, isMantissa,
            isMarker, isSign, rfl, rfl, by rw [isMinus]; rfl⟩
      · cases reads

/-- What a scan holds grows by the letter that it reads. -/
theorem Scan.Holds.step
    {scan next : Scan}
    {letters : List Letter}
    {letter : Letter}
    (holds : scan.Holds letters)
    (expected : expectsInside scan letter.terminal = true)
    (reads : scan.step? letter.character = some next) :
    next.Holds (letters ++ [letter]) := by
  cases numbered : digit? letter.character with
  | some digit => exact holds.step_digit numbered reads
  | none => exact holds.step_mark expected numbered reads

/-- A scan that has come to a number holds a numeral of that number. -/
theorem Scan.Holds.numeral
    {scan : Scan}
    {letters : List Letter}
    {number : Decimal}
    (holds : scan.Holds letters)
    (complete : scan.decimal? = some number) :
    Grammar.Numeral letters number := by
  cases scan with
  | point | marker | signed => cases complete
  | whole digits =>
      obtain ⟨isDigits, nonempty, rfl⟩ := holds
      obtain rfl := Option.some.inj complete
      simpa using Grammar.Numeral.intro (.whole isDigits nonempty) .absent
  | fraction digits places =>
      obtain ⟨left, point, right, rfl, leftDigits, isPoint, rightDigits,
        nonempty, rfl, rfl⟩ := holds
      obtain rfl := Option.some.inj complete
      simpa using Grammar.Numeral.intro
        (.fraction leftDigits isPoint rightDigits nonempty) .absent
  | exponent digits places negative power =>
      obtain ⟨mantissa, left, right, marker, signs, exponent, rfl, isMantissa,
        isMarker, rfl, rfl, isSigned, isDigits, nonempty, rfl⟩ := holds
      rcases isSigned with ⟨rfl, rfl⟩ | ⟨sign, rfl, isSign, rfl⟩
      · obtain rfl := Option.some.inj complete
        exact .intro isMantissa (.unsigned isMarker isDigits nonempty)
      · have signed := Grammar.Numeral.intro isMantissa
          (.signed isMarker isSign isDigits nonempty)
        by_cases isMinus : sign.character = '-'
        · simp only [isMinus, decide_true, Scan.decimal?,
            Option.some.injEq] at complete
          simpa [isMinus, ← complete] using signed
        · simp only [isMinus, decide_false, Scan.decimal?,
            Option.some.injEq] at complete
          simpa [isMinus, ← complete] using signed

/-! ## From the grammar to the scan -/

/-- The letters lead from one scan to another, and each of them is expected. -/
inductive Scan.Leads : Scan → List Letter → Scan → Prop where
  | refl : Leads scan [] scan
  | step :
      expectsInside scan letter.terminal = true →
      scan.step? letter.character = some next →
      Leads next letters last →
      Leads scan (letter :: letters) last

/-- The letters are read by a scan from its start on. -/
def Scan.Begins (letters : List Letter) (scan : Scan) : Prop :=
  ∃ first rest start,
    letters = first :: rest ∧
      (first.terminal = .digit ∨ first.terminal = .point) ∧
      Scan.start? first.character = some start ∧ Leads start rest scan

namespace Scan

theorem Leads.trans
    {first middle last : Scan}
    {left right : List Letter}
    (leads : Leads first left middle)
    (onwards : Leads middle right last) :
    Leads first (left ++ right) last := by
  induction leads with
  | refl => exact onwards
  | step expected reads _ inductionHypothesis =>
      exact .step expected reads (inductionHypothesis onwards)

theorem Begins.trans
    {left right : List Letter}
    {middle last : Scan}
    (begins : Begins left middle)
    (onwards : Leads middle right last) :
    Begins (left ++ right) last := by
  obtain ⟨first, rest, start, rfl, isFirst, starts, leads⟩ := begins
  exact ⟨first, rest ++ right, start, rfl, isFirst, starts,
    leads.trans onwards⟩

/-- Digits lead along scans that count them and add up their number. -/
theorem leads_digits
    {letters : List Letter}
    (isDigits : Digits letters)
    (along : Nat → Nat → Scan)
    (expected : ∀ number count,
      expectsInside (along number count) .digit = true)
    (reads : ∀ number count character digit,
      digit? character = some digit →
        (along number count).step? character =
          some (along (10 * number + digit) (count + 1)))
    (number count : Nat) :
    Leads (along number count) letters
      (along (Nat.ofDigitChars 10 (characters letters) number)
        (count + letters.length)) := by
  induction letters generalizing number count with
  | nil => exact .refl
  | cons letter letters inductionHypothesis =>
      rw [digits_cons] at isDigits
      obtain ⟨isDigit, others⟩ := isDigits
      have onwards := inductionHypothesis others
        (10 * number + (letter.character.toNat - '0'.toNat)) (count + 1)
      rw [Nat.add_assoc, Nat.add_comm 1] at onwards
      exact .step (isDigit ▸ expected number count)
        (reads _ _ _ _ (digit?_of_digit isDigit)) onwards

/-- Digits of the whole part. -/
theorem leads_whole
    {letters : List Letter}
    (isDigits : Digits letters)
    (digits : Nat) :
    Leads (.whole digits) letters
      (.whole (Nat.ofDigitChars 10 (characters letters) digits)) := by
  refine leads_digits isDigits (fun digits _ => .whole digits) ?_ ?_ digits 0
  · intro _ _
    rfl
  · intro _ _ _ _ numbered
    simp [step?, numbered]

/-- Digits behind a point. -/
theorem leads_fraction
    {letters : List Letter}
    (isDigits : Digits letters)
    (digits places : Nat) :
    Leads (.fraction digits places) letters
      (.fraction (Nat.ofDigitChars 10 (characters letters) digits)
        (places + letters.length)) := by
  refine leads_digits isDigits .fraction ?_ ?_ digits places
  · intro _ _
    rfl
  · intro _ _ _ _ numbered
    simp [step?, numbered]

/-- Digits of an exponent. -/
theorem leads_exponent
    {letters : List Letter}
    (isDigits : Digits letters)
    (digits places : Nat)
    (negative : Bool)
    (power : Nat) :
    Leads (.exponent digits places negative power) letters
      (.exponent digits places negative
        (Nat.ofDigitChars 10 (characters letters) power)) := by
  refine leads_digits isDigits
    (fun power _ => .exponent digits places negative power) ?_ ?_ power 0
  · intro _ _
    rfl
  · intro _ _ _ _ numbered
    simp [step?, numbered]

theorem start?_of_digit
    {letter : Letter}
    (isDigit : letter.terminal = .digit) :
    start? letter.character = some (.whole (natural [letter])) := by
  have numbered := digit?_of_digit isDigit
  have notPoint : letter.character ≠ '.' := by
    intro isPoint
    rw [isPoint] at numbered
    cases numbered
  simp [start?, notPoint, numbered]

theorem start?_of_point
    {letter : Letter}
    (isPoint : letter.terminal = .point) :
    start? letter.character = some .point :=
  if_pos (eq_of_beq (Letter.admits_of_terminal isPoint))

/-- Digits by themselves are read to a whole number. -/
theorem Begins.of_digits
    {letters : List Letter}
    (isDigits : Digits letters)
    (nonempty : letters ≠ []) :
    Begins letters (.whole (natural letters)) := by
  obtain ⟨first, rest, rfl⟩ := List.exists_cons_of_ne_nil nonempty
  rw [digits_cons] at isDigits
  refine ⟨first, rest, _, rfl, .inl isDigits.1, start?_of_digit isDigits.1, ?_⟩
  rw [← List.singleton_append, natural_append]
  exact leads_whole isDigits.2 _

/-- A point and digits behind a whole number. -/
theorem leads_point
    {point : Letter}
    {right : List Letter}
    (isPoint : point.terminal = .point)
    (isDigits : Digits right)
    (left : List Letter) :
    Leads (.whole (natural left)) (point :: right)
      (.fraction (natural (left ++ right)) right.length) := by
  have onwards := leads_fraction isDigits (natural left) 0
  rw [← natural_append, Nat.zero_add] at onwards
  refine .step (by rw [isPoint]; rfl) ?_ onwards
  rw [eq_of_beq (Letter.admits_of_terminal isPoint)]
  rfl

/-- A point at the start of a numeral and digits behind it. -/
theorem Begins.of_point
    {point : Letter}
    {right : List Letter}
    (isPoint : point.terminal = .point)
    (isDigits : Digits right)
    (nonempty : right ≠ []) :
    Begins (point :: right) (.fraction (natural right) right.length) := by
  obtain ⟨first, rest, rfl⟩ := List.exists_cons_of_ne_nil nonempty
  rw [digits_cons] at isDigits
  have onwards := leads_fraction isDigits.2 (natural [first]) 1
  rw [← natural_append, Nat.add_comm] at onwards
  refine ⟨point, first :: rest, .point, rfl, .inr isPoint,
    start?_of_point isPoint, .step (by rw [isDigits.1]; rfl) ?_ onwards⟩
  simp [step?, digit?_of_digit isDigits.1]

theorem character_of_exponentLetter
    {letter : Letter}
    (isLetter : letter.terminal = .exponentLetter) :
    letter.character = 'e' ∨ letter.character = 'E' := by
  simpa [Terminal.admits] using Letter.admits_of_terminal isLetter

/-- The digits in front of an exponent are read to a scan that has their number
and that an exponent may follow. -/
theorem Begins.of_mantissa
    {mantissa left right : List Letter}
    (isMantissa : Mantissa mantissa left right) :
    ∃ scan, Begins mantissa scan ∧
      scan.decimal? = some ⟨natural (left ++ right), -right.length⟩ ∧
      ∀ marker : Letter, marker.terminal = .exponentLetter →
        Leads scan [marker]
          (.marker (natural (left ++ right)) right.length) := by
  cases isMantissa with
  | whole isDigits nonempty =>
      refine ⟨_, .of_digits isDigits nonempty, by simp [decimal?], ?_⟩
      intro marker isMarker
      refine .step (by rw [isMarker]; rfl) ?_ .refl
      rcases character_of_exponentLetter isMarker with isLetter | isLetter <;>
        simp [step?, isLetter, digit?]
  | @fraction left right point leftDigits isPoint rightDigits nonempty =>
      refine ⟨.fraction (natural (left ++ right)) right.length, ?_, rfl, ?_⟩
      · by_cases leftEmpty : left = []
        · subst leftEmpty
          exact .of_point isPoint rightDigits (by simpa using nonempty)
        · exact (Begins.of_digits leftDigits leftEmpty).trans
            (leads_point isPoint rightDigits left)
      · intro marker isMarker
        refine .step (by rw [isMarker]; rfl) ?_ .refl
        rcases character_of_exponentLetter isMarker with isLetter | isLetter <;>
          simp [step?, isLetter, digit?]

/-- The digits of an exponent, from a scan that takes the first of them. -/
theorem leads_power
    {scan : Scan}
    {letters : List Letter}
    {digits places : Nat}
    {negative : Bool}
    (isDigits : Digits letters)
    (nonempty : letters ≠ [])
    (expected : expectsInside scan .digit = true)
    (first : ∀ letter : Letter, letter.terminal = .digit →
      scan.step? letter.character =
        some (.exponent digits places negative (natural [letter]))) :
    Leads scan letters
      (.exponent digits places negative (natural letters)) := by
  obtain ⟨letter, rest, rfl⟩ := List.exists_cons_of_ne_nil nonempty
  rw [digits_cons] at isDigits
  refine .step (isDigits.1 ▸ expected) (first letter isDigits.1) ?_
  rw [← List.singleton_append, natural_append]
  exact leads_exponent isDigits.2 digits places negative _

/-- An exponent without a sign. -/
theorem leads_unsigned
    {letters : List Letter}
    (isDigits : Digits letters)
    (nonempty : letters ≠ [])
    (digits places : Nat) :
    Leads (.marker digits places) letters
      (.exponent digits places false (natural letters)) := by
  apply leads_power isDigits nonempty rfl
  intro letter isDigit
  simp [step?, digit?_of_digit isDigit]

/-- An exponent with a sign. -/
theorem leads_signed
    {sign : Letter}
    {letters : List Letter}
    (isSign : sign.terminal = .exponentSign)
    (isDigits : Digits letters)
    (nonempty : letters ≠ [])
    (digits places : Nat) :
    Leads (.marker digits places) (sign :: letters)
      (.exponent digits places (decide (sign.character = '-'))
        (natural letters)) := by
  have onwards :
      Leads (.signed digits places (decide (sign.character = '-'))) letters
        (.exponent digits places (decide (sign.character = '-'))
          (natural letters)) := by
    apply leads_power isDigits nonempty rfl
    intro letter isDigit
    simp [step?, digit?_of_digit isDigit]
  refine .step (by rw [isSign]; rfl) ?_ onwards
  have admitted := Letter.admits_of_terminal isSign
  simp only [Terminal.admits, Bool.or_eq_true, beq_iff_eq] at admitted
  rcases admitted with isPlus | isMinus
  · rw [isPlus]
    rfl
  · rw [isMinus]
    rfl

/-- Every numeral of the grammar is read to a scan that has its number. -/
theorem Begins.of_numeral
    {letters : List Letter}
    {number : Decimal}
    (isNumeral : Grammar.Numeral letters number) :
    ∃ scan, Begins letters scan ∧ scan.decimal? = some number := by
  obtain ⟨isMantissa, isExponent⟩ := isNumeral
  obtain ⟨scan, begins, complete, marked⟩ := Begins.of_mantissa isMantissa
  cases isExponent with
  | absent => exact ⟨scan, by simpa using begins, by simpa using complete⟩
  | unsigned isMarker isDigits nonempty =>
      exact ⟨_, begins.trans ((marked _ isMarker).trans
        (leads_unsigned isDigits nonempty _ _)), rfl⟩
  | signed isMarker isSign isDigits nonempty =>
      refine ⟨_, begins.trans ((marked _ isMarker).trans
        (leads_signed isSign isDigits nonempty _ _)), ?_⟩
      split
      · next isMinus => simp [decimal?, isMinus]
      · next isPlus => simp [decimal?, isPlus]

/-- Letters that lead from one scan to another are read so. -/
theorem Leads.foldlM
    {scan last : Scan}
    {letters : List Letter}
    (leads : Leads scan letters last) :
    (characters letters).foldlM step? scan = some last := by
  induction leads with
  | refl => rfl
  | step _ reads _ inductionHypothesis =>
      rw [characters_cons, List.foldlM_cons, reads]
      exact inductionHypothesis

/-- The start of a numeral is complete, or one more digit makes it so. -/
theorem complete_or_digit (scan : Scan) :
    (∃ number, scan.decimal? = some number) ∨
      ∃ next number, scan.step? '0' = some next ∧
        next.decimal? = some number := by
  cases scan with
  | whole | fraction => exact .inl ⟨_, rfl⟩
  | exponent digits places negative power =>
      cases negative <;> exact .inl ⟨_, rfl⟩
  | point | marker => exact .inr ⟨_, _, rfl, rfl⟩
  | signed digits places negative =>
      cases negative <;> exact .inr ⟨_, _, rfl, rfl⟩

end Scan

/-- Reading the characters of a numeral gives its number. -/
theorem read?_of_numeral
    {letters : List Letter}
    {number : Decimal}
    (isNumeral : Grammar.Numeral letters number) :
    read? (characters letters) = some number := by
  obtain ⟨scan, begins, complete⟩ := Scan.Begins.of_numeral isNumeral
  obtain ⟨first, rest, start, rfl, _, starts, leads⟩ := begins
  simp only [characters_cons, read?, starts, Option.bind_eq_bind,
    Option.bind_some, leads.foldlM, complete]

end Numeral
end CalculatorTrials
