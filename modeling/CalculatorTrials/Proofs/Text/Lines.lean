import CalculatorTrials.Text.Blank
import CalculatorTrials.Text.Lines

/-!
# Lines read back

Lines that hold no terminators are read back from every text that holds them,
however each of them is ended. A text is also read back from its bytes.
-/

namespace CalculatorTrials
namespace Text

/-- The text can be a line: there is no line feed in it and no carriage return at
its end. -/
structure IsLine (line : List Char) : Prop where
  noFeed : '\n' ∉ line
  noReturn : line.getLast? ≠ some '\r'

instance (line : List Char) : Decidable (IsLine line) :=
  decidable_of_iff ('\n' ∉ line ∧ line.getLast? ≠ some '\r')
    ⟨fun ⟨noFeed, noReturn⟩ => ⟨noFeed, noReturn⟩,
      fun isLine => ⟨isLine.noFeed, isLine.noReturn⟩⟩

/-- The text holds the lines. Each of them is ended by a line feed or by a
carriage return and a line feed, and at the end of the text a line that is not
empty need not be ended. -/
inductive Holds : (text : String) → (lines : List String) → Prop where
  | nothing : Holds "" []
  | unended (line : String) (notEmpty : line ≠ "") : Holds line [line]
  | feed (line : String) {text : String} {lines : List String}
      (rest : Holds text lines) : Holds (line ++ "\n" ++ text) (line :: lines)
  | returnFeed (line : String) {text : String} {lines : List String}
      (rest : Holds text lines) : Holds (line ++ "\r\n" ++ text) (line :: lines)

/-- What can be a line can be a part of one. -/
theorem IsLine.append
    {front back : List Char}
    (isFront : IsLine front)
    (isBack : IsLine back) :
    IsLine (front ++ back) where
  noFeed := by
    rw [List.mem_append]
    exact not_or.mpr ⟨isFront.noFeed, isBack.noFeed⟩
  noReturn := by
    rw [List.getLast?_append]
    cases ends : back.getLast? with
    | none => exact isFront.noReturn
    | some last =>
        rw [Option.some_or, ← ends]
        exact isBack.noReturn

/-- A text without any terminators can be a line. -/
theorem isLine_of_forall_ne
    {line : List Char}
    (free : ∀ character ∈ line, character ≠ '\n' ∧ character ≠ '\r') :
    IsLine line where
  noFeed member := (free _ member).1 rfl
  noReturn isLast := (free _ (List.mem_of_getLast? isLast)).2 rfl

/-- A character that is no white space is no terminator. -/
theorem ne_terminator_of_isWhiteSpace
    {character : Char}
    (free : isWhiteSpace character = false) :
    character ≠ '\n' ∧ character ≠ '\r' := by
  constructor <;>
    · rintro rfl
      cases free

/-- Without a carriage return at its end, a line is what stands in front of its
line feed. -/
theorem IsLine.endedLine_eq
    {line : List Char}
    (isLine : IsLine line) :
    endedLine line.reverse = line := by
  rw [endedLine.eq_def]
  split
  next reversed returns =>
    exact absurd (List.getLast?_eq_head?_reverse.trans
      (congrArg List.head? returns)) isLine.noReturn
  next => exact List.reverse_reverse line

/-- Characters without a line feed among them go on a line. -/
theorem linesFrom_append_of_noFeed
    {front : List Char}
    (noFeed : '\n' ∉ front)
    (reversed rest : List Char) :
    linesFrom reversed (front ++ rest) =
      linesFrom (front.reverse ++ reversed) rest := by
  induction front generalizing reversed with
  | nil => rfl
  | cons character front inductionHypothesis =>
      have notFeed : character ≠ '\n' := by
        rintro rfl
        exact noFeed (List.mem_cons_self ..)
      have next : linesFrom reversed (character :: (front ++ rest)) =
          linesFrom (character :: reversed) (front ++ rest) :=
        if_neg notFeed
      rw [List.cons_append, next,
        inductionHypothesis fun member => noFeed (List.mem_cons_of_mem _ member),
        List.reverse_cons, List.append_assoc]
      rfl

/-- A line feed ends the line in front of it. -/
theorem linesFrom_append
    {line : List Char}
    (noFeed : '\n' ∉ line)
    (reversed rest : List Char) :
    linesFrom reversed (line ++ '\n' :: rest) =
      endedLine (line.reverse ++ reversed) :: linesFrom [] rest :=
  linesFrom_append_of_noFeed noFeed reversed ('\n' :: rest)

theorem toList_unlines (lines : List String) :
    (unlines lines).toList =
      lines.flatMap fun line => line.toList ++ ['\n'] := by
  suffices steps : ∀ text : String,
      (lines.foldl (fun text line => (text ++ line).push '\n') text).toList =
        text.toList ++ lines.flatMap fun line => line.toList ++ ['\n'] by
    exact steps ""
  induction lines with
  | nil => simp
  | cons line lines inductionHypothesis =>
      intro text
      rw [List.foldl_cons, inductionHypothesis]
      simp

/-- A line feed ends a line without a carriage return at its end. -/
theorem lines_append_feed
    {line : String}
    (isLine : IsLine line.toList)
    (text : String) :
    Text.lines (line ++ "\n" ++ text) = line :: Text.lines text := by
  have characters : (line ++ "\n" ++ text).toList =
      line.toList ++ '\n' :: text.toList := by
    simp
  rw [Text.lines, characters, linesFrom_append isLine.noFeed, List.append_nil,
    isLine.endedLine_eq, List.map_cons, String.ofList_toList, Text.lines]

/-- A carriage return in front of the line feed is no part of the line, whatever
is in front of it. -/
theorem lines_append_returnFeed
    {line : String}
    (noFeed : '\n' ∉ line.toList)
    (text : String) :
    Text.lines (line ++ "\r\n" ++ text) = line :: Text.lines text := by
  have characters : (line ++ "\r\n" ++ text).toList =
      (line.toList ++ ['\r']) ++ '\n' :: text.toList := by
    simp
  have stillNoFeed : '\n' ∉ line.toList ++ ['\r'] := by
    simpa using noFeed
  have ended : endedLine (line.toList ++ ['\r']).reverse = line.toList := by
    rw [List.reverse_concat, endedLine, List.reverse_reverse]
  rw [Text.lines, characters, linesFrom_append stillNoFeed, List.append_nil,
    ended, List.map_cons, String.ofList_toList, Text.lines]

/-- At the end of a text a line need not be ended. -/
theorem lines_of_noFeed
    {line : String}
    (noFeed : '\n' ∉ line.toList)
    (notEmpty : line ≠ "") :
    Text.lines line = [line] := by
  have present : ¬line.toList.reverse.isEmpty = true := by
    simpa using notEmpty
  have last : linesFrom [] line.toList = [line.toList] := by
    rw [← List.append_nil line.toList, linesFrom_append_of_noFeed noFeed,
      List.append_nil, linesFrom, if_neg present, List.reverse_reverse,
      List.append_nil]
  rw [Text.lines, last, List.map_singleton, String.ofList_toList]

/-- Lines are read back from every text that holds them, whatever ends each of
them. -/
theorem lines_of_holds
    {text : String}
    {lines : List String}
    (holds : Holds text lines)
    (areLines : ∀ line ∈ lines, IsLine line.toList) :
    Text.lines text = lines := by
  induction holds with
  | nothing => rfl
  | unended line notEmpty =>
      exact lines_of_noFeed (List.forall_mem_singleton.mp areLines).noFeed
        notEmpty
  | feed line rest inductionHypothesis =>
      obtain ⟨isLine, others⟩ := List.forall_mem_cons.mp areLines
      rw [lines_append_feed isLine, inductionHypothesis others]
  | returnFeed line rest inductionHypothesis =>
      obtain ⟨isLine, others⟩ := List.forall_mem_cons.mp areLines
      rw [lines_append_returnFeed isLine.noFeed, inductionHypothesis others]

/-- A text in which a line feed ends each line holds the lines. -/
theorem holds_unlines (lines : List String) : Holds (unlines lines) lines := by
  induction lines with
  | nil => exact .nothing
  | cons line lines inductionHypothesis =>
      have split : unlines (line :: lines) =
          line ++ "\n" ++ unlines lines := by
        apply String.toList_injective
        simp [toList_unlines]
      rw [split]
      exact .feed line inductionHypothesis

/-- Lines are read back from the text in which each of them is ended. -/
theorem lines_unlines
    {lines : List String}
    (areLines : ∀ line ∈ lines, IsLine line.toList) :
    Text.lines (unlines lines) = lines :=
  lines_of_holds (holds_unlines lines) areLines

/-- A text is read back from its bytes. -/
theorem fromUTF8?_toUTF8 (text : String) :
    String.fromUTF8? text.toUTF8 = some text :=
  dif_pos text.isValidUTF8

end Text
end CalculatorTrials
