/-!
# Lines of a text

A line ends at a line feed, or at a carriage return and a line feed. What
follows the last line feed is a line unless it is empty.
-/

namespace CalculatorTrials
namespace Text

/-- A line, given backwards, without the carriage return of its terminator. -/
def endedLine : List Char → List Char
  | '\r' :: reversed => reversed.reverse
  | reversed => reversed.reverse

/-- The lines of a text that goes on a line given backwards. -/
def linesFrom (reversed : List Char) : List Char → List (List Char)
  | [] => if reversed.isEmpty then [] else [reversed.reverse]
  | character :: rest =>
      if character = '\n' then endedLine reversed :: linesFrom [] rest
      else linesFrom (character :: reversed) rest

/-- The lines of a text. -/
def lines (text : String) : List String :=
  (linesFrom [] text.toList).map String.ofList

/-- The text in which a line feed ends each line. -/
def unlines (lines : List String) : String :=
  lines.foldl (fun text line => (text ++ line).push '\n') ""

theorem isEmpty_foldl_push
    (lines : List String)
    (text : String) :
    (lines.foldl (fun text line => (text ++ line).push '\n') text).isEmpty =
      (text.isEmpty && lines.isEmpty) := by
  induction lines generalizing text with
  | nil => simp
  | cons line rest hypothesis => simp [hypothesis]

/-- Without lines there is no text, and only then. -/
@[simp] theorem isEmpty_unlines (lines : List String) :
    (unlines lines).isEmpty = lines.isEmpty := by
  simp [unlines, isEmpty_foldl_push]

end Text
end CalculatorTrials
