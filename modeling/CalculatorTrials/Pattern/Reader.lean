import Std.Data.HashSet
import CalculatorTrials.Pattern.Bracket
import CalculatorTrials.Pattern.Progress
import CalculatorTrials.Pattern.Size

/-!
# Reading patterns

A pattern is a choice of sequences with bars between them. A part of a sequence
is a character, a set, a test or a group, and what repeats it stands behind it.
A group may begin with a name or with flags. Flags alone in brackets stand for
the empty text and hold up to the end of the group around them.
-/

namespace CalculatorTrials
namespace Pattern

/-- A pattern with the number of sequences, choices, repetitions, groups and
brackets around its innermost part, as they were written. -/
structure Part where
  pattern : Pattern
  depth : Nat

namespace Part

/-- The greatest depth of parts. -/
def greatest (parts : List Part) : Nat :=
  parts.foldl (fun depth part => max depth part.depth) 0

/-- Parts one behind the other. -/
def sequenceOf : List Part → Part
  | [] => ⟨.empty, 0⟩
  | [part] => part
  | parts => ⟨.sequenceOf (parts.map (·.pattern)), greatest parts + 1⟩

/-- One part of several. -/
def choiceOf : List Part → Part
  | [part] => part
  | parts => ⟨.choiceOf (parts.map (·.pattern)), greatest parts + 1⟩

/-- A part with something around it, if it is not nested too deeply. -/
def nested? (part : Part) (pattern : Pattern) : Option Part :=
  if part.depth < greatestDepth then some ⟨pattern, part.depth + 1⟩ else none

end Part

/-- A group that is being read, or the whole pattern. -/
structure Frame where
  /-- The choices in front of the last bar, the last first. -/
  choices : List Part
  /-- The parts behind it, the last first. A change of flags is nothing that can
  be repeated. -/
  parts : List (Option Part)
  /-- The number of the group, if it has one. -/
  number : Option Nat
  /-- The mode in front of the group. -/
  mode : Mode

namespace Frame

/-- The sequence behind the last bar. -/
def last (frame : Frame) : Part :=
  .sequenceOf (frame.parts.reverse.map (·.getD ⟨.empty, 0⟩))

/-- The pattern of what is in a frame. -/
def inner (frame : Frame) : Part :=
  .choiceOf (frame.last :: frame.choices).reverse

/-- Add a part. -/
def add (frame : Frame) (part : Option Part) : Frame :=
  { frame with parts := part :: frame.parts }

/-- The part that a group is when it is closed. -/
def close? (frame : Frame) : Option Part :=
  let inner := frame.inner
  inner.nested? (frame.number.elim inner.pattern (.group · inner.pattern))

/-- Repeat the last part, which cannot be a change of flags. -/
def repeatLast
    (frame : Frame)
    (least : Nat)
    (most : Option Nat)
    (prefersFewer : Bool) : Option Frame :=
  match frame.parts with
  | some part :: parts => do
      let pattern := repeatOf least most prefersFewer part.pattern
      return { frame with parts := some (← part.nested? pattern) :: parts }
  | _ => none

end Frame

/-- A pattern that has been read in part. -/
structure Reading where
  mode : Mode
  /-- The innermost open group. -/
  frame : Frame
  /-- The groups around it, the innermost first. -/
  outer : List Frame
  /-- The number of the next group. -/
  nextNumber : Nat
  /-- The names of groups. -/
  names : Std.HashSet String

namespace Reading

/-- The start. -/
def start : Reading :=
  { mode := .initial
    frame := ⟨[], [], none, .initial⟩
    outer := []
    nextNumber := 1
    names := ∅ }

/-- Add a part to the innermost group. -/
def add (reading : Reading) (part : Part) : Reading :=
  { reading with frame := reading.frame.add (some part) }

/-- Add a pattern without parts. -/
def addPattern (reading : Reading) (pattern : Pattern) : Reading :=
  reading.add ⟨pattern, 0⟩

/-- Repeat the last part of the innermost group. A mark changes whether fewer
times are preferred. -/
def repeatLast
    (reading : Reading)
    (least : Nat)
    (most : Option Nat)
    (rest : List Char) : Option (Reading × List Char) := do
  let isMarked := rest.head? == some '?'
  let prefersFewer := reading.mode.isOn .prefersFewer != isMarked
  let frame ← reading.frame.repeatLast least most prefersFewer
  return ({ reading with frame }, if isMarked then rest.tail else rest)

/-- Begin a group. -/
def openGroup
    (reading : Reading)
    (number : Option Nat)
    (mode : Mode) : Reading :=
  { reading with
    mode
    frame := ⟨[], [], number, reading.mode⟩
    outer := reading.frame :: reading.outer }

/-- Begin a group with a number. -/
def openNumbered (reading : Reading) : Reading :=
  { reading.openGroup (some reading.nextNumber) reading.mode with
    nextNumber := reading.nextNumber + 1 }

/-- End the innermost group. -/
def closeGroup (reading : Reading) : Option Reading :=
  match reading.outer with
  | [] => none
  | frame :: outer => do
      let group ← reading.frame.close?
      return { reading with
        mode := reading.frame.mode
        frame := frame.add (some group)
        outer }

/-- Go on behind a bar. -/
def nextChoice (reading : Reading) : Reading :=
  let frame := reading.frame
  { reading with
    frame := { frame with choices := frame.last :: frame.choices, parts := [] } }

/-- Add a character that stands for itself. -/
def addCharacter
    (reading : Reading)
    (character : Char) : Option Reading := do
  return reading.addPattern (.ofSet (← reading.mode.members? (.single character)))

/-- Add what an escape stands for. The code of a single byte is a character
without Unicode only if it is an ASCII character. -/
def addEscape (reading : Reading) : Escape → Option Reading
  | .character value isByte => do
      guard (reading.mode.isOn .unicode || !isByte || value.toNat ≤ 0x7F)
      reading.addCharacter value
  | .characterClass value => some (reading.addPattern (.ofSet value.set))
  | .test pattern => some (reading.addPattern pattern)

/-- Whether a name of a group is well formed. -/
def isName : List Char → Bool
  | [] => false
  | first :: rest =>
      let isLetter (character : Char) :=
        character.isAlpha || character == '_' || 0x80 ≤ character.toNat
      isLetter first && rest.all fun character =>
        isLetter character || character.isDigit || ".[]".contains character

/-- Read a name of a group up to its end and begin the group. -/
def readName
    (reading : Reading)
    (text : List Char) : Option (Reading × List Char) := do
  let (name, rest) := text.span (· != '>')
  let known := String.ofList name
  guard (isName name && !rest.isEmpty && !reading.names.contains known)
  return ({ reading.openNumbered with names := reading.names.insert known },
    rest.tail)

/-- Read flags, which hold for the group that they begin or for the rest of the
group around them. -/
def readFlags
    (reading : Reading)
    (text : List Char) : Option (Reading × List Char) := do
  guard (text.head? != some ')')
  let (mode, final, rest) ← reading.mode.readChange [] false false text
  if final = ')' then
    return ({ reading with mode, frame := reading.frame.add none }, rest)
  else return (reading.openGroup none mode, rest)

/-- Read the start of a group behind its bracket. No pattern looks ahead or
back. -/
def readGroup
    (reading : Reading)
    (text : List Char) : Option (Reading × List Char) :=
  match reading.mode.skip text with
  | '?' :: '<' :: '=' :: _ | '?' :: '<' :: '!' :: _ => none
  | '?' :: 'P' :: '<' :: rest | '?' :: '<' :: rest => reading.readName rest
  | '?' :: rest => reading.readFlags rest
  | text => some (reading.openNumbered, text)

/-- Read a number with white space around it. -/
def readNumber
    (mode : Mode)
    (text : List Char) : Option (Nat × List Char) := do
  let skipBlank (text : List Char) := text.dropWhile Text.isWhiteSpace
  let (digits, rest) := mode.span Char.isDigit (skipBlank text)
  guard (!digits.isEmpty)
  let digits := (digits.dropWhile (· == '0')).take 11
  let number := digits.foldl (fun number digit =>
    10 * number + (digit.toNat - '0'.toNat)) 0
  guard (number < 0x100000000)
  return (number, mode.skip (skipBlank rest))

/-- Read the numbers of a repetition, behind its brace. -/
def readCounts
    (mode : Mode)
    (text : List Char) : Option (Nat × Option Nat × List Char) := do
  let (least, rest) ← readNumber mode (mode.skip text)
  match rest with
  | '\x7d' :: rest => return (least, some least, mode.skip rest)
  | ',' :: rest =>
      match mode.skip rest with
      | '\x7d' :: rest => return (least, none, mode.skip rest)
      | rest => do
          let (most, rest) ← readNumber mode rest
          guard (least ≤ most)
          match rest with
          | '\x7d' :: rest => return (least, some most, mode.skip rest)
          | _ => none
  | _ => none

/-- Read one part, of which the first character is given. A set is read if it
has no more than a number of parts. -/
def step
    (reading : Reading)
    (count : Nat)
    (character : Char)
    (rest : List Char) : Option (Reading × List Char) := do
  let mode := reading.mode
  match character with
  | '(' => reading.readGroup rest
  | ')' => return (← reading.closeGroup, rest)
  | '|' => return (reading.nextChoice, rest)
  | '?' => reading.repeatLast 0 (some 1) rest
  | '*' => reading.repeatLast 0 none rest
  | '+' => reading.repeatLast 1 none rest
  | '\x7b' =>
      let (least, most, rest) ← readCounts mode rest
      reading.repeatLast least most rest
  | '[' =>
      let (nested, rest) ← Bracket.readSet mode count rest
      return (reading.add ⟨.ofSet nested.set, nested.depth⟩, rest)
  | '\\' =>
      let (escape, rest) ← Escape.read mode rest
      return (← reading.addEscape escape, rest)
  | '.' => return (reading.addPattern (.ofSet (← mode.dot?)), rest)
  | '^' => return (reading.addPattern (.test mode.startTest), rest)
  | '$' => return (reading.addPattern (.test mode.endTest), rest)
  | _ => return (← reading.addCharacter character, rest)

/-- The pattern, if no group is open and it is not nested too deeply. -/
def pattern? (reading : Reading) : Option Pattern :=
  let inner := reading.frame.inner
  if reading.outer.isEmpty ∧ inner.depth ≤ greatestDepth then
    some inner.pattern
  else none

/-- Read a text to its end, if it has no more than a number of parts. -/
def readAll
    (reading : Reading) : (count : Nat) → List Char → Option Pattern
  | 0, _ => none
  | count + 1, text =>
      match reading.mode.skip text with
      | [] => reading.pattern?
      | character :: rest =>
          match reading.step count character rest with
          | some (reading, rest) => reading.readAll count rest
          | none => none

end Reading

/-- The pattern of a text, if the text is well formed and the pattern is of
use. Each part takes a character. -/
def parse? (text : List Char) : Option Pattern := do
  let pattern ← Reading.start.readAll (text.length + 1) text
  guard pattern.isUsable
  return pattern

end Pattern
end CalculatorTrials
