import CalculatorTrials.Pattern.Basic
import CalculatorTrials.Text.Blank

/-!
# Modes of patterns

Flags in a pattern change how the text behind them is read: which characters a
set has, where lines end, and whether white space and comments between the
parts of a pattern count.
-/

namespace CalculatorTrials
namespace Pattern

/-- A flag of a pattern. -/
inductive Flag where
  | ignoresCase
  /-- The tests for a start and an end are about lines. -/
  | multiLine
  /-- The dot stands for line ends too. -/
  | dotTakesLineEnds
  /-- Repetitions prefer fewer times, and with their mark more. -/
  | prefersFewer
  | unicode
  /-- Carriage returns end lines too. -/
  | carriageReturns
  | ignoresSpace
  deriving DecidableEq, Repr

namespace Flag

/-- All flags. -/
def all : List Flag :=
  [ignoresCase, multiLine, dotTakesLineEnds, prefersFewer, unicode,
    carriageReturns, ignoresSpace]

/-- The letter of a flag. -/
def letter : Flag → Char
  | ignoresCase => 'i'
  | multiLine => 'm'
  | dotTakesLineEnds => 's'
  | prefersFewer => 'U'
  | unicode => 'u'
  | carriageReturns => 'R'
  | ignoresSpace => 'x'

/-- The flag of a letter. -/
def ofLetter? (letter : Char) : Option Flag :=
  all.find? (·.letter == letter)

end Flag

/-- The flags that are on. -/
structure Mode where
  flags : List Flag

namespace Mode

/-- The mode that patterns start in. -/
def initial : Mode := ⟨[.unicode]⟩

/-- Whether a flag is on. -/
def isOn (mode : Mode) (flag : Flag) : Bool := mode.flags.contains flag

/-- Turn a flag on or off. -/
def set (mode : Mode) (flag : Flag) (value : Bool) : Mode :=
  let others := mode.flags.erase flag
  ⟨if value then flag :: others else others⟩

/-- A text without white space and comments in front. A comment goes from a
number sign to the end of its line. -/
def skipSpace (inComment : Bool) : List Char → List Char
  | [] => []
  | character :: rest =>
      if inComment then skipSpace (character != '\n') rest
      else if Text.isWhiteSpace character then skipSpace false rest
      else if character = '#' then skipSpace true rest
      else character :: rest

theorem length_skipSpace_le
    (inComment : Bool)
    (text : List Char) :
    (skipSpace inComment text).length ≤ text.length := by
  induction text generalizing inComment with
  | nil => simp [skipSpace]
  | cons character rest shorter =>
      unfold skipSpace
      split
      · exact Nat.le_succ_of_le (shorter _)
      · split
        · exact Nat.le_succ_of_le (shorter _)
        · split
          · exact Nat.le_succ_of_le (shorter _)
          · exact Nat.le_refl _

/-- A text without what does not count in front. -/
def skip (mode : Mode) (text : List Char) : List Char :=
  if mode.isOn .ignoresSpace then skipSpace false text else text

theorem length_skip_le (mode : Mode) (text : List Char) :
    (mode.skip text).length ≤ text.length := by
  unfold skip
  split
  · exact length_skipSpace_le false text
  · exact Nat.le_refl _

/-- The characters of one kind in front of a text, behind those given
backwards, and the rest. What does not count is passed over between them and
behind. -/
def spanFrom
    (mode : Mode)
    (kind : Char → Bool)
    (reversed : List Char) : List Char → List Char × List Char
  | [] => (reversed.reverse, [])
  | character :: rest =>
      if kind character then
        mode.spanFrom kind (character :: reversed) (mode.skip rest)
      else (reversed.reverse, character :: rest)
  termination_by text => text.length
  decreasing_by exact Nat.lt_succ_of_le (length_skip_le mode rest)

/-- The characters of one kind in front of a text, and the rest. -/
def span
    (mode : Mode)
    (kind : Char → Bool)
    (text : List Char) : List Char × List Char :=
  mode.spanFrom kind [] text

/-- A number of characters of one kind in front of a text, and the rest. -/
def take
    (mode : Mode)
    (kind : Char → Bool) : Nat → List Char → Option (List Char × List Char)
  | 0, text => some ([], text)
  | _ + 1, [] => none
  | count + 1, character :: rest => do
      guard (kind character)
      let (more, rest) ← mode.take kind count (mode.skip rest)
      return (character :: more, rest)

/-- Read a change of flags up to its end, a colon or a closing bracket. Each
flag and the sign that turns flags off may stand once. -/
def readChange
    (mode : Mode)
    (seen : List Flag)
    (off afterSign : Bool) : List Char → Option (Mode × Char × List Char)
  | [] => none
  | character :: rest =>
      if character = ':' ∨ character = ')' then
        if afterSign then none else some (mode, character, rest)
      else if character = '-' then
        if off then none else mode.readChange seen true true rest
      else do
        let flag ← Flag.ofLetter? character
        guard (!seen.contains flag)
        (mode.set flag !off).readChange (flag :: seen) off false rest

/-- The set that a written set stands for. Letters of the other case are known
for ASCII only. -/
def members? (mode : Mode) (set : CharacterSet) : Option CharacterSet :=
  if !mode.isOn .ignoresCase then some set
  else if mode.isOn .unicode then none
  else some set.anyCase

/-- A set, or the characters outside it. Without Unicode there is no set of
characters that are not ASCII. -/
def negated?
    (mode : Mode)
    (negated : Bool)
    (set : CharacterSet) : Option CharacterSet := do
  guard (mode.isOn .unicode || !negated)
  return set.negatedIf negated

/-- What a dot stands for. -/
def dot? (mode : Mode) : Option CharacterSet := do
  guard (mode.isOn .unicode)
  let lineEnds :=
    if mode.isOn .dotTakesLineEnds then []
    else if mode.isOn .carriageReturns then ['\r', '\n']
    else ['\n']
  return (CharacterSet.unionOf (lineEnds.map .single)).complement

/-- The test for a start. -/
def startTest (mode : Mode) : Anchor :=
  if mode.isOn .multiLine then .lineStart (mode.isOn .carriageReturns)
  else .textStart

/-- The test for an end. -/
def endTest (mode : Mode) : Anchor :=
  if mode.isOn .multiLine then .lineEnd (mode.isOn .carriageReturns)
  else .textEnd

/-- The pattern of a test for parts of words. -/
def wordTest (mode : Mode) (test : WordTest) : Pattern :=
  .test (if mode.isOn .unicode then .scriptWord test else .word test)

end Mode
end Pattern
end CalculatorTrials
