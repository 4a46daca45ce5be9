import CalculatorTrials.Journal
import CalculatorTrials.Pattern.Reader
import CalculatorTrials.Text.Blank

/-!
# Choosing journal entries

A filter is written as directives with commas between them, possibly followed
by a slash and a pattern that has to occur in entries. A directive gives the
least grave severity to show, for all origins or for those whose name starts
with a given text. Directives that make no sense are passed over, and so is a
pattern that is not well formed or not usable. Without any directive only errors
are shown.
-/

namespace CalculatorTrials

/-- The full name of an origin. -/
def Origin.name : Origin → String
  | corpus => "pcalc_autogen::corpus"
  | expectation => "pcalc_autogen::oracle"
  | comparison => "pcalc_autogen::check"
  | command => "pcalc_autogen"

/-- The rank of the least grave severity to show, for some origins. -/
structure Directive where
  /-- The start of the names of the origins, or all origins. -/
  origins : Option (List Char)
  /-- The rank, which is zero where nothing is to be shown. -/
  rank : Nat
  deriving DecidableEq, Repr

namespace Directive

/-- The rank that a word gives, in letters of any case. -/
def rank? (word : List Char) : Option Nat :=
  let word := word.map Char.toUpper
  if word = "OFF".toList then some 0
  else
    (Severity.all.find? fun severity => severity.name.toList == word).map
      Severity.rank

/-- The directive of a text without commas and white space at its ends. -/
def parse? (text : List Char) : Option Directive :=
  match text.splitOn '=' with
  | [word] =>
      match rank? word with
      | some rank => some ⟨none, rank⟩
      | none => some ⟨some word, Severity.trace.rank⟩
  | [name, word] =>
      let word := Text.trim word
      if word.isEmpty then some ⟨some name, Severity.trace.rank⟩
      else (rank? word).map fun rank => ⟨some name, rank⟩
  | _ => none

/-- The length of the part of an origin's name that a directive fixes, if it
is about the origin. -/
def reach? (directive : Directive) (origin : Origin) : Option Nat :=
  match directive.origins with
  | none => some 0
  | some start =>
      if start.isPrefixOf origin.name.toList then some start.length else none

end Directive

/-- A choice of journal entries. -/
structure Filter where
  /-- The directives, each name at most once. -/
  directives : List Directive
  /-- The pattern that has to occur in entries, if there is one. -/
  pattern : Option Pattern

namespace Filter

/-- Add a directive, in the place of one for the same origins. -/
def add (directives : List Directive) (directive : Directive) : List Directive :=
  if directives.any (·.origins == directive.origins) then
    directives.map fun other =>
      if other.origins == directive.origins then directive else other
  else directives ++ [directive]

/-- The filter of directives and a pattern. -/
def ofDirectives
    (directives : List Directive)
    (pattern : Option Pattern) : Filter :=
  if directives.isEmpty then ⟨[⟨none, Severity.error.rank⟩], pattern⟩
  else ⟨directives, pattern⟩

/-- The directives of a text. -/
def parseDirectives (text : List Char) : List Directive :=
  (((text.splitOn ',').map Text.trim).filter (!·.isEmpty)).filterMap
    Directive.parse? |>.foldl add []

/-- The filter of a text. A text with two slashes has no directives. -/
def parse (text : String) : Filter :=
  match text.toList.splitOn '/' with
  | [directives] => ofDirectives (parseDirectives directives) none
  | [directives, pattern] =>
      ofDirectives (parseDirectives directives) (Pattern.parse? pattern)
  | _ => ofDirectives [] none

/-- The rank that the most specific directive gives for an origin, the last one
if there are several. -/
def rank (filter : Filter) (origin : Origin) : Nat :=
  (filter.directives.foldl
    (fun best directive =>
      match directive.reach? origin, best with
      | none, _ => best
      | some reach, none => some (reach, directive.rank)
      | some reach, some (most, _) =>
          if most ≤ reach then some (reach, directive.rank) else best)
    none).elim 0 Prod.snd

/-- Whether an entry is to be shown. -/
def shows (filter : Filter) (entry : Entry) : Bool :=
  entry.severity.rank ≤ filter.rank entry.origin &&
    filter.pattern.all (·.occursIn entry.text)

end Filter

end CalculatorTrials
