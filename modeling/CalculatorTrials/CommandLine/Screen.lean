import CalculatorTrials.CommandLine.Filter
import CalculatorTrials.Text.Lines
import CalculatorTrials.Text.Plain

/-!
# Entries on the screen

Entries are shown on a terminal, which acts on controls in their texts. An entry
may take several lines, or share its last line with the next one if a control
keeps the end of the line from being shown.
-/

namespace CalculatorTrials

/-- A line on the screen. -/
structure ScreenLine where
  /-- The severity of the entry that begins with the line, if one does. -/
  severity : Option Severity
  text : String
  deriving DecidableEq, Repr

namespace Entry

/-- The text of an entry as it is shown, with what ends its last line. -/
def shownText (entry : Entry) : String :=
  Text.plain ((Text.setIn entry.text).push '\n')

/-- The lines of an entry. The first is there even if nothing is shown. -/
def screenLines (entry : Entry) : List ScreenLine :=
  match Text.lines entry.shownText with
  | [] => [⟨entry.severity, ""⟩]
  | first :: rest => ⟨entry.severity, first⟩ :: rest.map (⟨none, ·⟩)

end Entry

/-- The lines of the entries that a filter shows. -/
def Filter.screenLines (filter : Filter) (journal : Journal) : List ScreenLine :=
  (journal.filter filter.shows).flatMap Entry.screenLines

end CalculatorTrials
