import CalculatorTrials.Proofs.Reader.Soundness

/-!
# What reading a line answers

Reading a line gives the calculation that the grammar says, and the grammar says
at most one. A refusal comes from the last reader of the longest run, and that
reader expects exactly the terminals that the grammar lets come next.
-/

namespace CalculatorTrials

open Grammar

/-! ## Lines that are read -/

/-- The grammar says what reading a line gives, and nothing else. -/
theorem Calculation.read_eq_ok_iff
    (line : List Char)
    (calculation : Calculation) :
    Calculation.read line = .ok calculation ↔ Says line calculation := by
  constructor
  · intro answer
    obtain ⟨letters, rest, last, rfl, runs, stuck⟩ :=
      Reader.exists_longest_run .start line
    rw [Calculation.read, runs.read] at answer
    cases rest with
    | nil =>
        simp only [Reader.read] at answer
        split at answer
        · next finished finishes =>
            obtain rfl := Except.ok.inj answer
            exact ⟨letters, runs.line finishes, (List.append_nil _).symm⟩
        · cases answer
    | cons character later =>
        simp only [Reader.read, stuck character later rfl] at answer
        cases answer
  · rintro ⟨letters, isLine, rfl⟩
    obtain ⟨last, runs, finishes⟩ := Reader.exists_runs_of_line isLine
    have answer := runs.read .start []
    rw [List.append_nil, Reader.read, finishes] at answer
    exact answer

/-- A line says one calculation at most. -/
theorem Grammar.Says.unique
    {line : List Char}
    {first second : Calculation}
    (meaning : Says line first)
    (other : Says line second) :
    first = second := by
  rw [← Calculation.read_eq_ok_iff] at meaning other
  exact Except.ok.inj (meaning.symm.trans other)

namespace Reader

/-! ## What may follow a run -/

/-- The grammar's end of line is expected where a line can end. -/
theorem expects_endOfLine_iff (reader : Reader) :
    reader.expects .endOfLine = true ↔
      ∃ calculation, reader.finish? = some calculation := by
  obtain ⟨groups, work, stage⟩ := reader
  cases groups with
  | cons around groups =>
      cases stage with
      | operand => simp [expects, expectsOperand, finish?]
      | complete operand => simp [expects, expectsBehind, finish?]
      | numeral scan =>
          cases scan <;> simp [expects, expectsInside, expectsBehind, finish?]
  | nil =>
      cases stage with
      | operand => simp [expects, expectsOperand, finish?, Phase.operand?]
      | complete operand =>
          simp [expects, expectsBehind, finish?, Phase.operand?]
      | numeral scan =>
          cases complete : scan.decimal? with
          | none =>
              cases scan <;>
                simp [expects, expectsInside, finish?, Phase.operand?, complete]
          | some number =>
              simp [expects, expectsBehind, finish?, Phase.operand?, complete]

/-- Every terminal but the end of the line has a letter. -/
theorem exists_letter
    {terminal : Terminal}
    (notEnd : terminal ≠ .endOfLine) :
    ∃ letter : Letter, letter.terminal = terminal := by
  cases terminal with
  | openGroup => exact ⟨.opening, rfl⟩
  | closeGroup => exact ⟨.closing, rfl⟩
  | times => exact ⟨.ofOperator .mul, rfl⟩
  | plus => exact ⟨.plus, rfl⟩
  | minus => exact ⟨.minus, rfl⟩
  | point => exact ⟨.point, rfl⟩
  | divide => exact ⟨.ofOperator .div, rfl⟩
  | endOfLine => exact absurd rfl notEnd
  | blank => exact ⟨⟨.blank, ' ', rfl⟩, rfl⟩
  | exponentSign => exact ⟨.exponentPlus, rfl⟩
  | digit => exact ⟨.zero, rfl⟩
  | exponentLetter => exact ⟨.lowerExponent, rfl⟩

/-- The reader behind a run reads the next character of every line that starts
with the run. -/
theorem Runs.exists_step
    {last : Reader}
    {letters : List Letter}
    {character : Char}
    {rest : List Char}
    {calculation : Calculation}
    (runs : Runs start letters last)
    (line :
      Says (characters letters ++ character :: rest) calculation) :
    ∃ next, last.step? character = some next := by
  obtain ⟨others, isLine, same⟩ := line
  obtain ⟨front, back, rfl, sameFront, sameBack⟩ :=
    List.map_eq_append_iff.mp same
  obtain ⟨letter, behind, rfl, rfl, _⟩ := List.map_eq_cons_iff.mp sameBack
  obtain ⟨_, also, _⟩ := exists_runs_of_line isLine
  obtain ⟨middle, upTo, onwards⟩ := also.exists_middle
  obtain rfl := runs.unique upTo sameFront.symm
  cases onwards with
  | step step _ => exact ⟨_, step.reads.2⟩

/-- The reader behind a run expects what the grammar lets come next. -/
theorem Runs.expects_iff
    {last : Reader}
    {letters : List Letter}
    (runs : Runs start letters last)
    (terminal : Terminal) :
    last.expects terminal = true ↔
      MayFollow (characters letters) terminal := by
  by_cases isEnd : terminal = .endOfLine
  · subst isEnd
    rw [expects_endOfLine_iff]
    constructor
    · rintro ⟨calculation, finishes⟩
      exact ⟨calculation, letters, runs.line finishes, rfl⟩
    · rintro ⟨calculation, others, isLine, same⟩
      obtain ⟨finished, also, finishes⟩ := exists_runs_of_line isLine
      obtain rfl := runs.unique also same.symm
      exact ⟨calculation, finishes⟩
  · have follows_iff : MayFollow (characters letters) terminal ↔
        ∃ before next behind calculation,
          Line (before ++ next :: behind) calculation ∧
            characters before = characters letters ∧
            next.terminal = terminal := by
      cases terminal <;> first | rfl | exact absurd rfl isEnd
    rw [follows_iff]
    constructor
    · intro expected
      obtain ⟨letter, rfl⟩ := exists_letter isEnd
      obtain ⟨next, step⟩ := Step.of_expects expected
      obtain ⟨behind, finished, calculation, onwards, finishes⟩ :=
        exists_end next
      exact ⟨letters, letter, behind, calculation,
        (runs.trans (.step step onwards)).line finishes, rfl, rfl⟩
    · rintro ⟨before, next, behind, calculation, isLine, same, rfl⟩
      obtain ⟨finished, also, _⟩ := exists_runs_of_line isLine
      obtain ⟨middle, upTo, onwards⟩ := also.exists_middle
      obtain rfl := runs.unique upTo same.symm
      cases onwards with
      | step step _ => exact step.reads.1

end Reader

/-! ## Refusals -/

namespace Grammar

/-- Some line starts with the characters. -/
def Viable (start : List Char) : Prop :=
  ∃ rest calculation, Says (start ++ rest) calculation

/-- The longest start of a text that some line starts with. -/
def LongestViable (start text : List Char) : Prop :=
  start <+: text ∧ Viable start ∧
    ∀ other, other <+: text → Viable other → other.length ≤ start.length

/-- Letters stand in one line, so the column tells their number. -/
theorem foldl_next_characters (letters : List Letter) (place : Place) :
    (characters letters).foldl Place.next place =
      ⟨place.line, place.column + letters.length⟩ := by
  induction letters generalizing place with
  | nil => rfl
  | cons letter letters inductionHypothesis =>
      rw [characters_cons, List.foldl_cons, inductionHypothesis, Place.next,
        if_neg letter.character_ne_terminator.1, List.length_cons]
      simp [Nat.add_assoc, Nat.add_comm 1]

end Grammar

namespace Reader

/-- A run that cannot be gone on with takes the longest start of a text that
some line starts with. -/
theorem Runs.longestViable
    {last : Reader}
    {letters : List Letter}
    {rest : List Char}
    (runs : Runs start letters last)
    (stuck : ∀ character later, rest = character :: later →
      last.step? character = none) :
    LongestViable (characters letters) (characters letters ++ rest) := by
  refine ⟨List.prefix_append .., ?_, ?_⟩
  · obtain ⟨others, finished, calculation, onwards, finishes⟩ := exists_end last
    exact ⟨characters others, calculation, letters ++ others,
      (runs.trans onwards).line finishes, characters_append ..⟩
  · rintro other ⟨unread, split⟩ ⟨more, calculation, line⟩
    apply Nat.le_of_not_lt
    intro longer
    have covers : characters letters <+: other :=
      List.prefix_of_prefix_length_le (List.prefix_append ..)
        ⟨unread, split⟩ (Nat.le_of_lt longer)
    obtain ⟨between, rfl⟩ := covers
    rw [List.append_assoc, List.append_cancel_left_eq] at split
    cases between with
    | nil => simp at longer
    | cons character between =>
        rw [List.append_assoc, List.cons_append] at line
        obtain ⟨next, reads⟩ := runs.exists_step line
        rw [stuck character _ split.symm] at reads
        cases reads

end Reader

/-- A refusal stands behind the longest start of a line that the text has, and
expects what may follow that start. -/
theorem Calculation.exists_of_read_eq_error
    {text : List Char}
    {refusal : Refusal}
    (answer : Calculation.read text = .error refusal) :
    ∃ start expected,
      LongestViable start text ∧
        refusal = ⟨⟨1, start.length + 1⟩, expected⟩ ∧
        expected.Sublist Terminal.all ∧
        ∀ terminal, terminal ∈ expected ↔ MayFollow start terminal := by
  obtain ⟨letters, rest, last, rfl, runs, stuck⟩ :=
    Reader.exists_longest_run .start text
  have refused :
      refusal = last.refusal ((characters letters).foldl Place.next .start) := by
    rw [Calculation.read, runs.read] at answer
    cases rest with
    | nil =>
        simp only [Reader.read] at answer
        split at answer
        · cases answer
        · exact (Except.error.inj answer).symm
    | cons character later =>
        simp only [Reader.read, stuck character later rfl] at answer
        exact (Except.error.inj answer).symm
  refine ⟨characters letters, Terminal.all.filter last.expects,
    runs.longestViable stuck, ?_, List.filter_sublist, ?_⟩
  · rw [refused, foldl_next_characters, length_characters]
    simp [Reader.refusal, Place.start, Nat.add_comm]
  · intro terminal
    have listed : terminal ∈ Terminal.all := by
      cases terminal <;> decide
    rw [List.mem_filter, and_iff_right listed]
    exact runs.expects_iff terminal

end CalculatorTrials
