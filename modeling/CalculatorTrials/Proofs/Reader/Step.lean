import CalculatorTrials.Proofs.Numeral.Scan

/-!
# The steps of a reader

A reader is a machine over characters, and the grammar speaks of letters. The
relation `Step` tells once what a reader can do with a letter. It holds exactly
where the terminal of the letter is expected and its character is read, and
every character that is read is a letter of some step.
-/

namespace CalculatorTrials
namespace Reader

open Grammar
open Numeral (Scan)

/-- What a reader does with a letter. -/
inductive Step : Reader → Letter → Reader → Prop where
  | blankBefore :
      letter.terminal = .blank →
      Step ⟨groups, work, .operand⟩ letter ⟨groups, work, .operand⟩
  | plus :
      letter.terminal = .plus →
      Step ⟨groups, work, .operand⟩ letter ⟨groups, work, .operand⟩
  | minus :
      letter.terminal = .minus →
      Step ⟨groups, work, .operand⟩ letter
        ⟨groups, ⟨work.sum, work.product, work.minuses + 1⟩, .operand⟩
  | openGroup :
      letter.terminal = .openGroup →
      Step ⟨groups, work, .operand⟩ letter
        ⟨work :: groups, .empty, .operand⟩
  | start :
      letter.terminal = .digit ∨ letter.terminal = .point →
      Scan.start? letter.character = some scan →
      Step ⟨groups, work, .operand⟩ letter ⟨groups, work, .numeral scan⟩
  | inside :
      expectsInside scan letter.terminal = true →
      scan.step? letter.character = some next →
      Step ⟨groups, work, .numeral scan⟩ letter
        ⟨groups, work, .numeral next⟩
  | blankBehind :
      stage.operand? = some operand →
      letter.terminal = .blank →
      Step ⟨groups, work, stage⟩ letter ⟨groups, work, .complete operand⟩
  | closeGroup :
      stage.operand? = some operand →
      letter.terminal = .closeGroup →
      Step ⟨around :: groups, work, stage⟩ letter
        ⟨groups, around, .complete (work.total operand)⟩
  | operator (operator : Operator) :
      stage.operand? = some operand →
      letter.terminal = terminal operator →
      Step ⟨groups, work, stage⟩ letter
        ⟨groups, work.push operand operator, .operand⟩

/-! ## Characters of letters -/

theorem isBlank_of_blank
    {letter : Letter}
    (isBlankLetter : letter.terminal = .blank) :
    isBlank letter.character = true :=
  Letter.admits_of_terminal isBlankLetter

/-- The character of an operator's letter. -/
theorem character_of_operator
    {letter : Letter}
    {operator : Operator}
    (isOperator : letter.terminal = terminal operator) :
    letter.character = operator.character := by
  have admitted := Letter.admits_of_terminal isOperator
  cases operator using Operator.cases_four <;> exact eq_of_beq admitted

theorem eq_character_of_ofCharacter?
    {character : Char}
    {operator : Operator}
    (named : Operator.ofCharacter? character = some operator) :
    character = operator.character := by
  unfold Operator.ofCharacter? at named
  split at named <;> cases named <;> rfl

theorem isBlank_eq_or
    {character : Char}
    (blank : isBlank character = true) :
    character = ' ' ∨ character = '\t' := by
  simpa [isBlank] using blank

/-- A character that may stand behind an operand does not go on a numeral. -/
theorem step?_eq_none
    {scan : Scan}
    {number : Decimal}
    {character : Char}
    (complete : scan.decimal? = some number)
    (behind : isBlank character = true ∨ character = ')' ∨
      ∃ operator : Operator, character = operator.character) :
    scan.step? character = none := by
  have noDigit : Numeral.digit? character = none ∧ character ≠ '.' ∧
      character ≠ 'e' ∧ character ≠ 'E' := by
    rcases behind with blank | rfl | ⟨operator, rfl⟩
    · rcases isBlank_eq_or blank with rfl | rfl <;> decide
    · decide
    · cases operator using Operator.cases_four <;> decide
  obtain ⟨notDigit, notPoint, notLower, notUpper⟩ := noDigit
  cases scan with
  | point | marker | signed => cases complete
  | whole | fraction | exponent =>
      simp [Scan.step?, notDigit, notPoint, notLower, notUpper]

/-- Behind an operand a reader does not look at how the operand ended. -/
theorem step?_eq_stepBehind?
    {reader : Reader}
    {operand : Calculation}
    {character : Char}
    (complete : reader.phase.operand? = some operand)
    (behind : isBlank character = true ∨ character = ')' ∨
      ∃ operator : Operator, character = operator.character) :
    reader.step? character = reader.stepBehind? operand character := by
  unfold step?
  split
  · next phase =>
      rw [phase] at complete
      cases complete
  · next finished phase =>
      rw [phase] at complete
      cases complete
      rfl
  · next scan phase =>
      rw [phase] at complete
      obtain ⟨number, isNumber, rfl⟩ := Option.map_eq_some_iff.mp complete
      rw [step?_eq_none isNumber behind]
      simp [isNumber]

/-- Behind an operand a reader expects what may come behind it. -/
theorem expects_of_expectsBehind
    {reader : Reader}
    {operand : Calculation}
    {terminal : Terminal}
    (complete : reader.phase.operand? = some operand)
    (expected : reader.expectsBehind terminal = true) :
    reader.expects terminal = true := by
  unfold expects
  split
  · next phase =>
      rw [phase] at complete
      cases complete
  · exact expected
  · next scan phase =>
      rw [phase] at complete
      obtain ⟨number, isNumber, rfl⟩ := Option.map_eq_some_iff.mp complete
      simp [isNumber, expected]

/-- The first character of a numeral is none of those that may stand in front
of an operand. -/
theorem stepOperand?_of_start?
    {reader : Reader}
    {character : Char}
    {scan : Scan}
    (starts : Scan.start? character = some scan) :
    reader.stepOperand? character =
      some { reader with phase := .numeral scan } := by
  have apart : character ≠ ' ' ∧ character ≠ '\t' ∧ character ≠ '+' ∧
      character ≠ '-' ∧ character ≠ '(' := by
    refine ⟨?_, ?_, ?_, ?_, ?_⟩ <;>
      · rintro rfl
        cases starts
  obtain ⟨notSpace, notTab, notPlus, notMinus, notOpening⟩ := apart
  simp [stepOperand?, isBlank, notSpace, notTab, notPlus, notMinus, notOpening,
    starts]

/-! ## Steps and the functions of a reader -/

/-- A step expects the terminal of its letter and reads its character. -/
theorem Step.reads
    {reader next : Reader}
    {letter : Letter}
    (step : Step reader letter next) :
    reader.expects letter.terminal = true ∧
      reader.step? letter.character = some next := by
  cases step with
  | blankBefore isLetter =>
      refine ⟨by rw [isLetter]; rfl, ?_⟩
      simp [step?, stepOperand?, isBlank_of_blank isLetter]
  | plus isLetter =>
      refine ⟨by rw [isLetter]; rfl, ?_⟩
      simp [step?, stepOperand?,
        eq_of_beq (Letter.admits_of_terminal isLetter)]
  | minus isLetter =>
      refine ⟨by rw [isLetter]; rfl, ?_⟩
      rw [eq_of_beq (Letter.admits_of_terminal isLetter)]
      rfl
  | openGroup isLetter =>
      refine ⟨by rw [isLetter]; rfl, ?_⟩
      rw [eq_of_beq (Letter.admits_of_terminal isLetter)]
      rfl
  | start isFirst starts =>
      have expected : expectsOperand letter.terminal = true := by
        rcases isFirst with isDigit | isPoint
        · rw [isDigit]
          rfl
        · rw [isPoint]
          rfl
      exact ⟨expected, stepOperand?_of_start? starts⟩
  | inside expected reads =>
      refine ⟨by simp [expects, expected], ?_⟩
      simp [step?, reads]
  | blankBehind complete isLetter =>
      have blank := isBlank_of_blank isLetter
      refine ⟨expects_of_expectsBehind complete (by rw [isLetter]; rfl), ?_⟩
      rw [step?_eq_stepBehind? complete (.inl blank)]
      simp [stepBehind?, blank]
  | closeGroup complete isLetter =>
      have closing : letter.character = ')' :=
        eq_of_beq (Letter.admits_of_terminal isLetter)
      refine ⟨expects_of_expectsBehind complete (by rw [isLetter]; rfl), ?_⟩
      rw [step?_eq_stepBehind? complete (.inr (.inl closing)), closing]
      rfl
  | operator operator complete isLetter =>
      have named := character_of_operator isLetter
      refine ⟨expects_of_expectsBehind complete ?_, ?_⟩
      · rw [isLetter]
        cases operator using Operator.cases_four <;> rfl
      · rw [step?_eq_stepBehind? complete (.inr (.inr ⟨operator, named⟩)),
          named]
        cases operator using Operator.cases_four <;> rfl

/-- A letter whose terminal continues a numeral is read by its scan. -/
theorem step?_of_expectsInside
    {scan : Scan}
    {letter : Letter}
    (expected : expectsInside scan letter.terminal = true) :
    ∃ next, scan.step? letter.character = some next := by
  cases terminal : letter.terminal with
  | digit =>
      have numbered := Numeral.digit?_of_digit terminal
      cases scan <;> simp [Scan.step?, numbered]
  | point =>
      rw [terminal] at expected
      rw [eq_of_beq (Letter.admits_of_terminal terminal)]
      cases scan with
      | whole => exact ⟨_, rfl⟩
      | point | fraction | marker | signed | exponent => cases expected
  | exponentLetter =>
      rw [terminal] at expected
      cases scan with
      | whole | fraction =>
          rcases Scan.character_of_exponentLetter terminal with
            isLetter | isLetter <;>
          · rw [isLetter]
            exact ⟨_, rfl⟩
      | point | marker | signed | exponent => cases expected
  | exponentSign =>
      rw [terminal] at expected
      have admitted := Letter.admits_of_terminal terminal
      simp only [Terminal.admits, Bool.or_eq_true, beq_iff_eq] at admitted
      cases scan with
      | marker =>
          rcases admitted with isPlus | isMinus
          · rw [isPlus]
            exact ⟨_, rfl⟩
          · rw [isMinus]
            exact ⟨_, rfl⟩
      | whole | point | fraction | signed | exponent => cases expected
  | openGroup | closeGroup | times | plus | minus | divide | endOfLine
  | blank =>
      rw [terminal] at expected
      cases scan <;> cases expected

/-- A character that continues a numeral is the character of a letter that is
expected inside it. -/
theorem exists_letter_of_step?
    {scan next : Scan}
    {character : Char}
    (reads : scan.step? character = some next) :
    ∃ letter : Letter, letter.character = character ∧
      expectsInside scan letter.terminal = true := by
  cases numbered : Numeral.digit? character with
  | some digit =>
      exact ⟨⟨.digit, character, (Numeral.isDigit_of_digit? numbered).1⟩, rfl,
        rfl⟩
  | none =>
      cases scan <;> simp only [Scan.step?, numbered, reduceCtorEq] at reads
      case whole digits =>
        split at reads
        · next isPoint => exact ⟨.point, isPoint.symm, rfl⟩
        · split at reads
          · next isLetter =>
              exact ⟨⟨.exponentLetter, character,
                by simpa [Terminal.admits] using isLetter⟩, rfl, rfl⟩
          · cases reads
      case fraction digits places =>
        split at reads
        · next isLetter =>
            exact ⟨⟨.exponentLetter, character,
              by simpa [Terminal.admits] using isLetter⟩, rfl, rfl⟩
        · cases reads
      case marker digits places =>
        split at reads
        · next isPlus => exact ⟨.exponentPlus, isPlus.symm, rfl⟩
        · split at reads
          · next isMinus =>
              exact ⟨.exponentMinus, isMinus.symm, rfl⟩
          · cases reads

/-- A letter whose terminal may come behind an operand is read there. -/
theorem Step.of_expectsBehind
    {reader : Reader}
    {operand : Calculation}
    {letter : Letter}
    (complete : reader.phase.operand? = some operand)
    (expected : reader.expectsBehind letter.terminal = true) :
    ∃ next, Step reader letter next := by
  cases terminal : letter.terminal with
  | blank => exact ⟨_, .blankBehind complete terminal⟩
  | plus => exact ⟨_, .operator .add complete terminal⟩
  | minus => exact ⟨_, .operator .sub complete terminal⟩
  | times => exact ⟨_, .operator .mul complete terminal⟩
  | divide => exact ⟨_, .operator .div complete terminal⟩
  | closeGroup =>
      obtain ⟨groups, work, stage⟩ := reader
      cases groups with
      | nil =>
          rw [terminal] at expected
          cases expected
      | cons around groups => exact ⟨_, .closeGroup complete terminal⟩
  | endOfLine => cases Letter.admits_of_terminal terminal
  | openGroup | point | exponentSign | digit | exponentLetter =>
      rw [terminal] at expected
      cases expected

/-- A letter whose terminal is expected is read. -/
theorem Step.of_expects
    {reader : Reader}
    {letter : Letter}
    (expected : reader.expects letter.terminal = true) :
    ∃ next, Step reader letter next := by
  obtain ⟨groups, work, stage⟩ := reader
  cases stage with
  | operand =>
      replace expected : expectsOperand letter.terminal = true := expected
      cases terminal : letter.terminal with
      | blank => exact ⟨_, .blankBefore terminal⟩
      | plus => exact ⟨_, .plus terminal⟩
      | minus => exact ⟨_, .minus terminal⟩
      | openGroup => exact ⟨_, .openGroup terminal⟩
      | digit =>
          exact ⟨_, .start (.inl terminal) (Scan.start?_of_digit terminal)⟩
      | point =>
          exact ⟨_, .start (.inr terminal) (Scan.start?_of_point terminal)⟩
      | closeGroup | times | divide | endOfLine | exponentSign
      | exponentLetter =>
          rw [terminal] at expected
          cases expected
  | complete operand => exact Step.of_expectsBehind rfl expected
  | numeral scan =>
      rcases Bool.or_eq_true .. ▸ expected with inside | behind
      · obtain ⟨next, reads⟩ := step?_of_expectsInside inside
        exact ⟨_, .inside inside reads⟩
      · obtain ⟨isComplete, expected⟩ := Bool.and_eq_true .. ▸ behind
        obtain ⟨number, isNumber⟩ := Option.isSome_iff_exists.mp isComplete
        exact Step.of_expectsBehind
          (congrArg (Option.map Calculation.number) isNumber) expected

/-- A character that is read behind an operand is the character of a letter that
is expected there. -/
theorem Step.of_stepBehind?
    {reader next : Reader}
    {operand : Calculation}
    {character : Char}
    (complete : reader.phase.operand? = some operand)
    (reads : reader.stepBehind? operand character = some next) :
    ∃ letter, letter.character = character ∧ Step reader letter next := by
  obtain ⟨groups, work, stage⟩ := reader
  unfold stepBehind? at reads
  split at reads
  · next blank =>
      obtain rfl := Option.some.inj reads
      exact ⟨⟨.blank, character, blank⟩, rfl, .blankBehind complete rfl⟩
  · split at reads
    · next closing =>
        subst closing
        cases groups with
        | nil => cases reads
        | cons around groups =>
            obtain rfl := Option.some.inj reads
            exact ⟨.closing, rfl, .closeGroup complete rfl⟩
    · obtain ⟨operator, named, rfl⟩ := Option.map_eq_some_iff.mp reads
      obtain rfl := eq_character_of_ofCharacter? named
      exact ⟨.ofOperator operator, rfl, .operator operator complete rfl⟩

/-- A character that is read where an operand has to come is the character of a
letter that is expected there. -/
theorem Step.of_stepOperand?
    {groups : List Pending}
    {work : Pending}
    {next : Reader}
    {character : Char}
    (reads :
      stepOperand? ⟨groups, work, .operand⟩ character = some next) :
    ∃ letter, letter.character = character ∧
      Step ⟨groups, work, .operand⟩ letter next := by
  unfold stepOperand? at reads
  split at reads
  · next isFree =>
      obtain rfl := Option.some.inj reads
      rcases isFree with blank | isPlus
      · exact ⟨⟨.blank, character, blank⟩, rfl, .blankBefore rfl⟩
      · exact ⟨.plus, isPlus.symm, .plus rfl⟩
  · split at reads
    · next isMinus =>
        obtain rfl := Option.some.inj reads
        exact ⟨.minus, isMinus.symm, .minus rfl⟩
    · split at reads
      · next isOpening =>
          obtain rfl := Option.some.inj reads
          exact ⟨.opening, isOpening.symm, .openGroup rfl⟩
      · obtain ⟨scan, starts, rfl⟩ := Option.map_eq_some_iff.mp reads
        have first := starts
        unfold Scan.start? at first
        split at first
        · next isPoint =>
            subst isPoint
            exact ⟨.point, rfl, .start (.inr rfl) starts⟩
        · obtain ⟨digit, numbered, _⟩ := Option.map_eq_some_iff.mp first
          exact ⟨⟨.digit, character, (Numeral.isDigit_of_digit? numbered).1⟩,
            rfl, .start (.inl rfl) starts⟩

/-- A character that is read is the character of a letter that is expected. -/
theorem Step.of_step?
    {reader next : Reader}
    {character : Char}
    (reads : reader.step? character = some next) :
    ∃ letter, letter.character = character ∧ Step reader letter next := by
  obtain ⟨groups, work, stage⟩ := reader
  cases stage with
  | operand => exact Step.of_stepOperand? reads
  | complete operand => exact Step.of_stepBehind? rfl reads
  | numeral scan =>
      simp only [step?] at reads
      split at reads
      · next inside continues =>
          obtain rfl := Option.some.inj reads
          obtain ⟨letter, rfl, expected⟩ := exists_letter_of_step? continues
          exact ⟨letter, rfl, .inside expected continues⟩
      · obtain ⟨number, isNumber, behind⟩ := Option.bind_eq_some_iff.mp reads
        exact Step.of_stepBehind?
          (congrArg (Option.map Calculation.number) isNumber) behind

end Reader
end CalculatorTrials
