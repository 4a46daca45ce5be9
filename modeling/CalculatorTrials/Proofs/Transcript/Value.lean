import CalculatorTrials.Proofs.Binary64.Text
import CalculatorTrials.Proofs.Text.Blank
import CalculatorTrials.Transcript.Comparison

/-!
# Numbers in the lines of a transcript

The line of a number carries that number, and the line of a division by zero
carries none. No text of a number has white space in it, so what is trimmed from
a line is only the space in front of the number.
-/

namespace CalculatorTrials

open Grammar

/-! ## White space -/

/-- Printable characters of the basic Latin block are not white space. -/
theorem Text.isWhiteSpace_eq_false
    {character : Char}
    (least : 0x21 ≤ character.toNat)
    (greatest : character.toNat ≤ 0x7E) :
    isWhiteSpace character = false := by
  apply Bool.eq_false_iff.mpr
  intro isSpace
  simp only [isWhiteSpace, Bool.or_eq_true, Bool.and_eq_true,
    decide_eq_true_eq, beq_iff_eq] at isSpace
  omega

/-- Letters other than blanks are not white space. -/
theorem Grammar.Letter.isWhiteSpace_eq_false
    {letter : Letter}
    (notBlank : letter.terminal ≠ .blank) :
    Text.isWhiteSpace letter.character = false := by
  obtain ⟨terminal, character, admitted⟩ := letter
  cases terminal with
  | blank => exact absurd rfl notBlank
  | endOfLine => cases admitted
  | openGroup | closeGroup | times | plus | minus | point | divide =>
      obtain rfl := eq_of_beq admitted
      rfl
  | exponentSign | exponentLetter =>
      simp only [Terminal.admits, Bool.or_eq_true, beq_iff_eq] at admitted
      rcases admitted with rfl | rfl <;> rfl
  | digit =>
      have range : 48 ≤ character.toNat ∧ character.toNat ≤ 57 := by
        simpa [Terminal.admits, Char.isDigit, UInt32.le_iff_toNat_le]
          using admitted
      exact Text.isWhiteSpace_eq_false (Nat.le_trans (by decide) range.1)
        (Nat.le_trans range.2 (by decide))

/-- A numeral has no blanks in it. -/
theorem Grammar.Numeral.terminal_ne_blank
    {letters : List Letter}
    {number : Decimal}
    (isNumeral : Grammar.Numeral letters number) :
    ∀ letter ∈ letters, letter.terminal ≠ .blank := by
  have ofDigits {digits : List Letter} (areDigits : Digits digits) :
      ∀ letter ∈ digits, letter.terminal ≠ .blank := by
    intro letter member
    rw [areDigits letter member]
    decide
  obtain ⟨isMantissa, isExponent⟩ := isNumeral
  refine List.forall_mem_append.mpr ⟨?_, ?_⟩
  · cases isMantissa with
    | whole areDigits => exact ofDigits areDigits
    | fraction leftDigits isPoint rightDigits =>
        refine List.forall_mem_append.mpr ⟨ofDigits leftDigits,
          List.forall_mem_cons.mpr ⟨?_, ofDigits rightDigits⟩⟩
        rw [isPoint]
        decide
  · cases isExponent with
    | absent => exact List.forall_mem_nil _
    | unsigned isMarker areDigits =>
        refine List.forall_mem_cons.mpr ⟨?_, ofDigits areDigits⟩
        rw [isMarker]
        decide
    | signed isMarker isSign areDigits =>
        refine List.forall_mem_cons.mpr ⟨?_, List.forall_mem_cons.mpr
          ⟨?_, ofDigits areDigits⟩⟩
        · rw [isMarker]
          decide
        · rw [isSign]
          decide

namespace Binary64

theorem isWhiteSpace_signText (number : Float) :
    ∀ character ∈ signText number,
      Text.isWhiteSpace character = false := by
  rw [signText]
  split <;> simp [Text.isWhiteSpace]

/-- No text of a number has white space in it. -/
theorem Written.isWhiteSpace_eq_false
    {number : Float}
    {text : List Char}
    (written : Written number text) :
    ∀ character ∈ text, Text.isWhiteSpace character = false := by
  cases written with
  | nan => simp [Text.isWhiteSpace]
  | zero => simp [Text.isWhiteSpace]
  | infinite =>
      refine List.forall_mem_append.mpr ⟨isWhiteSpace_signText number, ?_⟩
      simp [Text.isWhiteSpace]
  | numeral _ _ isNumeral =>
      refine List.forall_mem_append.mpr ⟨isWhiteSpace_signText number, ?_⟩
      intro character member
      obtain ⟨letter, among, rfl⟩ := List.mem_map.mp member
      exact Letter.isWhiteSpace_eq_false
        (isNumeral.terminal_ne_blank letter among)

end Binary64

/-! ## Lines of outcomes -/

namespace Transcript

/-- A line with a space in front of a text carries what the text denotes. -/
theorem value?_resultLead
    {text : List Char}
    (free : ∀ character ∈ text, Text.isWhiteSpace character = false) :
    value? (resultLead ++ String.ofList text) = Binary64.parse? text := by
  have characters : (resultLead ++ String.ofList text).toList =
      '>' :: ' ' :: '=' :: ' ' :: text := by
    simp [resultLead]
  have dropped :
      dropBytes? valueOffset ('>' :: ' ' :: '=' :: ' ' :: text) =
        some (' ' :: text) := by
    rfl
  have trimmed : Text.trim (' ' :: text) = text :=
    Text.trim_eq_self free
  rw [value?, valueText?, characters, dropped]
  simp [trimmed]

/-- The line of a division by zero carries no number. -/
theorem value?_divisionByZero : value? divisionByZero = none := by
  rfl

/-- The line of a number carries the number, and zero without a sign. -/
theorem value?_line (number : Float) :
    value? (Outcome.value number).line =
      some (if number == 0 then 0 else number) := by
  have written := Binary64.written_text number
  rw [Outcome.line, valueText, value?_resultLead written.isWhiteSpace_eq_false]
  exact written.parse?_eq

end Transcript
end CalculatorTrials
