import CalculatorTrials.Proofs.Expression.Nesting
import CalculatorTrials.Proofs.Text.Digits

/-!
# Texts of expressions

The text of an expression has few different characters, and it tells what the
events of the expression were. Read from its start, the next event is known from
the next characters, together with what the events so far leave open: an operand,
the digits of a literal, its exponent, or an operator.
-/

namespace CalculatorTrials

open Text

namespace Event

/-- The characters of expressions. -/
def alphabet : List Char := "0123456789+-*/.()eE".toList

theorem mem_alphabet_of_isDigit
    {character : Char}
    (isDigit : character.isDigit = true) :
    character ∈ alphabet := by
  have range : 48 ≤ character.toNat ∧ character.toNat ≤ 57 := by
    simpa [Char.isDigit, UInt32.le_iff_toNat_le] using isDigit
  have members : ∀ code ≤ 57, 48 ≤ code → Char.ofNat code ∈ alphabet := by
    decide
  rw [← Char.ofNat_toNat character]
  exact members _ range.2 range.1

/-- The digits of a number are characters of expressions. -/
theorem toDigits_subset_alphabet (number : Nat) :
    Nat.toDigits 10 number ⊆ alphabet :=
  fun _ member => mem_alphabet_of_isDigit (isDigit_of_mem_toDigits member)

/-- Events are written in the characters of expressions. -/
theorem text_subset_alphabet (event : Event) : event.text ⊆ alphabet := by
  cases event with
  | openGroup | closeGroup => decide
  | operator symbol =>
      cases symbol using Operator.cases_four with
      | add | sub | mul | div => decide
  | sign symbol => cases symbol <;> decide
  | digits whole fraction =>
      refine List.append_subset.mpr ⟨toDigits_subset_alphabet whole,
        List.cons_subset.mpr ⟨by decide, toDigits_subset_alphabet fraction⟩⟩
  | exponent marker size =>
      refine List.append_subset.mpr ⟨?_, toDigits_subset_alphabet size⟩
      cases marker <;> decide

end Event

/-! ## Stages of an expression -/

/-- What the events so far leave open. -/
inductive Stage where
  /-- An operand has to come. -/
  | operand
  /-- The digits of a literal have to come. -/
  | digits
  /-- The exponent of a literal may come, or what can stand behind it. -/
  | number
  /-- An operand is complete, and an operator or the end of a group may come. -/
  | complete
  deriving DecidableEq

namespace Stage

/-- The stage behind an event, if the event may come. -/
def after? : Stage → Event → Option Stage
  | operand, .openGroup => some operand
  | operand, .sign _ => some digits
  | digits, .digits .. => some number
  | number, .exponent .. => some complete
  | number, .operator _ | complete, .operator _ => some operand
  | number, .closeGroup | complete, .closeGroup => some complete
  | _, _ => none

/-- The events may come one after another, and none has to come then. -/
def Admits : Stage → List Event → Prop
  | stage, [] => stage = number ∨ stage = complete
  | stage, event :: events =>
      ∃ next, stage.after? event = some next ∧ next.Admits events

/-- What may come behind an exponent may come without one. -/
theorem Admits.withoutExponent
    {events : List Event}
    (admits : complete.Admits events) :
    number.Admits events := by
  cases events with
  | nil => exact .inl rfl
  | cons event events =>
      obtain ⟨next, isNext, rest⟩ := admits
      refine ⟨next, ?_, rest⟩
      cases event with
      | operator | closeGroup => exact isNext
      | openGroup | sign | digits | exponent => cases isNext

/-- A derivation is an operand in front of what may come behind operands. -/
theorem admits_eventsBefore
    (derivation : Derivation rule)
    {later : List Event}
    (admits : complete.Admits later) :
    operand.Admits (derivation.eventsBefore later) := by
  induction derivation generalizing later with
  | literal number =>
      obtain ⟨sign, whole, fraction, exponents⟩ := number
      refine ⟨digits, rfl, Stage.number, rfl, ?_⟩
      cases exponents with
      | none => exact admits.withoutExponent
      | some _ => exact ⟨complete, rfl, admits⟩
  | group body inductionHypothesis =>
      exact ⟨operand, rfl, inductionHypothesis ⟨complete, rfl, admits⟩⟩
  | factor primary inductionHypothesis => exact inductionHypothesis admits
  | product left operator right leftHypothesis rightHypothesis =>
      exact leftHypothesis ⟨operand, rfl, rightHypothesis admits⟩
  | summand term inductionHypothesis => exact inductionHypothesis admits
  | sum left operator right leftHypothesis rightHypothesis =>
      exact leftHypothesis ⟨operand, rfl, rightHypothesis admits⟩

/-! ## Reading the next event -/

/-- The number at the start of a text, and what is behind its digits. -/
def readNumber (text : List Char) : Nat × List Char :=
  (Nat.ofDigitChars 10 (text.takeWhile Char.isDigit) 0,
    text.dropWhile Char.isDigit)

/-- The marker at the start of a text, and what is behind it. -/
def readMarker? : List Char → Option (Marker × List Char)
  | 'e' :: '+' :: rest => some (.lowerPlus, rest)
  | 'e' :: '-' :: rest => some (.lowerMinus, rest)
  | 'e' :: rest => some (.lower, rest)
  | 'E' :: '+' :: rest => some (.upperPlus, rest)
  | 'E' :: '-' :: rest => some (.upperMinus, rest)
  | 'E' :: rest => some (.upper, rest)
  | _ => none

/-- The event that a text has next behind an operand, and what is behind it. -/
def readComplete? : List Char → Option (Event × List Char)
  | ')' :: rest => some (.closeGroup, rest)
  | '+' :: rest => some (.operator .add, rest)
  | '-' :: rest => some (.operator .sub, rest)
  | '*' :: rest => some (.operator .mul, rest)
  | '/' :: rest => some (.operator .div, rest)
  | _ => none

/-- The event that a text has next, and what is behind it. -/
def read? : Stage → List Char → Option (Event × List Char)
  | operand, '(' :: rest => some (.openGroup, rest)
  | operand, '+' :: rest => some (.sign .plus, rest)
  | operand, '-' :: rest => some (.sign .minus, rest)
  | operand, text => some (.sign .unsigned, text)
  | digits, text =>
      let whole := readNumber text
      let fraction := readNumber whole.2.tail
      some (.digits whole.1 fraction.1, fraction.2)
  | number, text =>
      match readMarker? text with
      | some (marker, behind) =>
          let size := readNumber behind
          some (.exponent marker size.1, size.2)
      | none => readComplete? text
  | complete, text => readComplete? text

theorem readNumber_toDigits
    (value : Nat)
    {rest : List Char}
    (without : Without Char.isDigit rest) :
    readNumber (Nat.toDigits 10 value ++ rest) = (value, rest) := by
  obtain ⟨isValue, isRest⟩ := ofDigitChars_takeWhile value without
  rw [readNumber, isValue, isRest]

/-- Behind a number or a complete operand there is no digit. -/
theorem Admits.without_isDigit
    {stage : Stage}
    {events : List Event}
    (admits : stage.Admits events)
    (behind : stage = number ∨ stage = complete) :
    Without Char.isDigit (events.flatMap Event.text) := by
  cases events with
  | nil => exact without_nil _
  | cons event events =>
      obtain ⟨next, isNext, _⟩ := admits
      cases event with
      | closeGroup => exact without_cons rfl _
      | operator symbol =>
          cases symbol using Operator.cases_four with
          | add | sub | mul | div => exact without_cons rfl _
      | exponent marker size => cases marker <;> exact without_cons rfl _
      | openGroup | sign | digits =>
          rcases behind with rfl | rfl <;> cases isNext

/-- A marker is read in front of the digits of its exponent. -/
theorem readMarker?_text
    (marker : Marker)
    (size : Nat)
    (rest : List Char) :
    readMarker? (marker.text ++ (Nat.toDigits 10 size ++ rest)) =
      some (marker, Nat.toDigits 10 size ++ rest) := by
  obtain ⟨digit, later, same, isDigit⟩ :=
    exists_toDigits_append_eq_cons size rest
  have notPlus : digit ≠ '+' := ne_of_isDigit isDigit rfl
  have notMinus : digit ≠ '-' := ne_of_isDigit isDigit rfl
  rw [same]
  cases marker with
  | lowerPlus | lowerMinus | upperPlus | upperMinus => rfl
  | lower | upper => simp [Marker.text, readMarker?, notPlus, notMinus]

theorem readComplete?_text
    {event : Event}
    {next : Stage}
    (isNext : complete.after? event = some next)
    (rest : List Char) :
    readComplete? (event.text ++ rest) = some (event, rest) ∧
      readMarker? (event.text ++ rest) = none := by
  cases event with
  | closeGroup => exact ⟨rfl, rfl⟩
  | operator symbol =>
      cases symbol using Operator.cases_four with
      | add | sub | mul | div => exact ⟨rfl, rfl⟩
  | openGroup | sign | digits | exponent => cases isNext

/-- Behind a sign that is not written there are digits. -/
theorem read?_unsigned
    (whole : Nat)
    (rest : List Char) :
    operand.read? (Nat.toDigits 10 whole ++ rest) =
      some (.sign .unsigned, Nat.toDigits 10 whole ++ rest) := by
  obtain ⟨digit, later, same, isDigit⟩ :=
    exists_toDigits_append_eq_cons whole rest
  have notGroup : digit ≠ '(' := ne_of_isDigit isDigit rfl
  have notPlus : digit ≠ '+' := ne_of_isDigit isDigit rfl
  have notMinus : digit ≠ '-' := ne_of_isDigit isDigit rfl
  rw [same]
  simp [read?, notGroup, notPlus, notMinus]

/-- Where digits have to come, the text starts with them. -/
theorem Admits.exists_text_eq
    {events : List Event}
    (admits : digits.Admits events) :
    ∃ whole rest,
      events.flatMap Event.text = Nat.toDigits 10 whole ++ rest := by
  cases events with
  | nil => rcases admits with impossible | impossible <;> cases impossible
  | cons event events =>
      obtain ⟨_, isDigits, _⟩ := admits
      cases event with
      | digits whole fraction =>
          rw [List.flatMap_cons, Event.text, List.append_assoc]
          exact ⟨whole, _, rfl⟩
      | openGroup | closeGroup | operator | sign | exponent => cases isDigits

theorem read?_operand
    {event : Event}
    {next : Stage}
    (isNext : operand.after? event = some next)
    {events : List Event}
    (admits : next.Admits events) :
    operand.read? (event.text ++ events.flatMap Event.text) =
      some (event, events.flatMap Event.text) := by
  cases event with
  | openGroup => rfl
  | sign symbol =>
      obtain rfl := Option.some.inj isNext
      cases symbol with
      | plus | minus => rfl
      | unsigned =>
          obtain ⟨whole, rest, text⟩ := admits.exists_text_eq
          rw [text]
          exact read?_unsigned whole rest
  | closeGroup | operator | digits | exponent => cases isNext

theorem read?_digits
    {event : Event}
    {next : Stage}
    (isNext : digits.after? event = some next)
    {events : List Event}
    (admits : next.Admits events) :
    digits.read? (event.text ++ events.flatMap Event.text) =
      some (event, events.flatMap Event.text) := by
  cases event with
  | digits whole fraction =>
      obtain rfl := Option.some.inj isNext
      have point : Without Char.isDigit ('.' :: (Nat.toDigits 10 fraction ++
          events.flatMap Event.text)) := without_cons rfl _
      have behind := admits.without_isDigit (.inl rfl)
      simp only [Event.text, List.append_assoc, List.cons_append, read?,
        readNumber_toDigits whole point, List.tail_cons,
        readNumber_toDigits fraction behind]
  | openGroup | closeGroup | operator | sign | exponent => cases isNext

theorem read?_number
    {event : Event}
    {next : Stage}
    (isNext : number.after? event = some next)
    {events : List Event}
    (admits : next.Admits events) :
    number.read? (event.text ++ events.flatMap Event.text) =
      some (event, events.flatMap Event.text) := by
  have withoutExponent (isNext : complete.after? event = some next) :
      number.read? (event.text ++ events.flatMap Event.text) =
        some (event, events.flatMap Event.text) := by
    obtain ⟨isRead, noMarker⟩ := readComplete?_text isNext
      (events.flatMap Event.text)
    rw [read?, noMarker]
    exact isRead
  cases event with
  | exponent marker size =>
      obtain rfl := Option.some.inj isNext
      have behind := admits.without_isDigit (.inr rfl)
      simp only [Event.text, List.append_assoc, read?, readMarker?_text,
        readNumber_toDigits size behind]
  | closeGroup | operator => exact withoutExponent isNext
  | openGroup | sign | digits => cases isNext

/-- The next event is read from the text of the events that may come. -/
theorem read?_text
    {stage : Stage}
    {event : Event}
    {next : Stage}
    (isNext : stage.after? event = some next)
    {events : List Event}
    (admits : next.Admits events) :
    stage.read? ((event :: events).flatMap Event.text) =
      some (event, events.flatMap Event.text) := by
  rw [List.flatMap_cons]
  cases stage with
  | operand => exact read?_operand isNext admits
  | digits => exact read?_digits isNext admits
  | number => exact read?_number isNext admits
  | complete => exact (readComplete?_text isNext _).1

/-- Where nothing has to come, nothing is read from the empty text. -/
theorem Admits.read?_nil
    {stage : Stage}
    (admits : stage.Admits []) :
    stage.read? [] = none := by
  rcases admits with rfl | rfl <;> rfl

/-- From one stage on, events are known from their text. -/
theorem Admits.eq_of_text_eq
    {stage : Stage}
    {first second : List Event}
    (admits : stage.Admits first)
    (others : stage.Admits second)
    (same : first.flatMap Event.text = second.flatMap Event.text) :
    first = second := by
  induction first generalizing stage second with
  | nil =>
      cases second with
      | nil => rfl
      | cons event events =>
          obtain ⟨next, isNext, rest⟩ := others
          have isRead := read?_text isNext rest
          rw [← same, List.flatMap_nil, admits.read?_nil] at isRead
          cases isRead
  | cons event events inductionHypothesis =>
      obtain ⟨next, isNext, rest⟩ := admits
      have isRead := read?_text isNext rest
      cases second with
      | nil =>
          rw [same, List.flatMap_nil, others.read?_nil] at isRead
          cases isRead
      | cons other otherEvents =>
          obtain ⟨otherNext, isOtherNext, otherRest⟩ := others
          have otherIsRead := read?_text isOtherNext otherRest
          rw [← same, isRead] at otherIsRead
          obtain ⟨rfl, sameText⟩ := Prod.mk.inj (Option.some.inj otherIsRead)
          obtain rfl := Option.some.inj (isNext.symm.trans isOtherNext)
          rw [inductionHypothesis rest otherRest sameText]

end Stage

namespace Derivation

/-- The events of a derivation are an operand. -/
theorem admits_events (derivation : Derivation rule) :
    Stage.operand.Admits derivation.events :=
  Stage.admits_eventsBefore derivation (Or.inr rfl)

/-- Derivations with one text have the same events. -/
theorem events_eq_of_text_eq
    {first : Derivation rule}
    {second : Derivation other}
    (same : first.text = second.text) :
    first.events = second.events :=
  first.admits_events.eq_of_text_eq second.admits_events same

/-- No derivation has the empty text. -/
theorem text_ne_nil (derivation : Derivation rule) :
    derivation.text ≠ [] := by
  have literals : 0 < derivation.events.countP Event.isDigits := by
    rw [derivation.countP_isDigits_events]
    exact Nat.succ_pos _
  obtain ⟨event, among, isDigits⟩ := List.countP_pos_iff.mp literals
  cases event with
  | digits whole fraction =>
      have point : '.' ∈ (Event.digits whole fraction).text :=
        List.mem_append_right _ (List.mem_cons_self ..)
      exact List.ne_nil_of_mem (List.mem_flatMap_of_mem among point)
  | openGroup | closeGroup | operator | sign | exponent => cases isDigits

/-- A derivation is written in the characters of expressions. -/
theorem text_subset_alphabet
    (derivation : Derivation rule) :
    derivation.text ⊆ Event.alphabet := by
  intro character member
  obtain ⟨event, _, among⟩ := List.mem_flatMap.mp member
  exact event.text_subset_alphabet among

end Derivation
end CalculatorTrials
