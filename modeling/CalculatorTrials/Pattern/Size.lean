import CalculatorTrials.Pattern.Basic
import CalculatorTrials.Pattern.Encoding

/-!
# Sizes of patterns

The size of a pattern is that of a machine that looks for it, in which counted
repetitions are written out. A machine has states, and a state that leads to
several others is larger. There is a machine that reads a text forwards and one
that reads it backwards, and a pattern is of use if neither is too large and all
its tests can be made.
-/

namespace CalculatorTrials
namespace Pattern

/-- The direction in which a text is read. -/
inductive Direction where
  | forwards
  | backwards
  deriving DecidableEq, Repr

/-- The greatest size. -/
def greatestSize : Nat := 10 * 1024 * 1024

/-- The size of a state. -/
def stateSize : Nat := 32

/-- The size of a state that leads to a number of states without reading. -/
def splitSize (count : Nat) : Nat := stateSize + 4 * count

/-- The size of a state that reads a byte of one of a number of ranges. -/
def readSize (count : Nat) : Nat := stateSize + 8 * count

/-- The size of a set. Forwards, sequences of bytes share their ends, and
backwards they share their starts. -/
def setSize (direction : Direction) (set : CharacterSet) : Nat :=
  if set.isAscii then stateSize + readSize set.ranges.length
  else
    let sequences := ByteRanges.ofSet set
    match direction with
    | .forwards =>
        (ByteRanges.followers 4 sequences).eraseDups.foldl
          (fun size (_, count) => size + readSize count) stateSize
    | .backwards =>
        splitSize sequences.length + stateSize +
          stateSize * ByteRanges.startCount sequences

/-- The bytes of a text in the order in which they are read. -/
def bytesOf (direction : Direction) (text : List Char) : List UInt8 :=
  let bytes := text.flatMap String.utf8EncodeChar
  match direction with
  | .forwards => bytes
  | .backwards => bytes.reverse

/-- The runs of texts between empty ones. Empty texts in front of all others
count as one. -/
def runsOf (texts : List (List UInt8)) : List (List (List UInt8)) :=
  let texts :=
    match texts with
    | [] :: rest => [] :: rest.dropWhile List.isEmpty
    | texts => texts
  texts.splitOnP List.isEmpty

/-- The rests of texts by their first bytes. -/
def byFirstByte
    (texts : List (List UInt8)) : List (UInt8 × List (List UInt8)) :=
  let firsts := (texts.filterMap List.head?).eraseDups
  firsts.map fun first =>
    (first, (texts.filter (·.head? == some first)).map List.tail)

/-- The size of the states for texts that are read letter by letter, with a
number of letters at most. No state is needed where nothing is left. -/
def textsSize : Nat → List (List UInt8) → Nat
  | 0, _ => 0
  | _ + 1, [text] => text.length * (splitSize 1 + stateSize)
  | count + 1, texts =>
      if texts.all List.isEmpty then 0
      else
        let runs := (runsOf texts).map byFirstByte
        let filled := runs.filter (!·.isEmpty)
        let reads := filled.map fun groups =>
          if groups.length = 1 then stateSize else readSize groups.length
        let rests := filled.map fun groups =>
          (groups.map fun (_, rests) => textsSize count rests).sum
        splitSize (filled.length + (runs.length - 1)) + reads.sum + rests.sum

/-- The texts of alternatives, if all are texts. -/
def textsOf? (alternatives : List Pattern) : Option (List (List Char)) :=
  alternatives.mapM fun
    | literal text => some text
    | _ => none

mutual

/-- Whether a pattern has a part that describes no text. -/
def hasNothing : Pattern → Bool
  | empty | literal _ | test _ => false
  | oneOf set => set.edges.isEmpty
  | repeated _ _ _ inner | group _ inner => inner.hasNothing
  | sequence parts | choice parts => haveNothing false parts

/-- Whether a pattern of a list has a part that describes no text, or one in
front of the list. -/
def haveNothing (found : Bool) : List Pattern → Bool
  | [] => found
  | pattern :: rest => haveNothing (found || pattern.hasNothing) rest

end

mutual

/-- Whether a pattern without parts that describe no text describes no empty
text as far as the characters tell. -/
def takesCharacters : Pattern → Bool
  | empty | test _ => false
  | literal _ | oneOf _ => true
  | repeated least _ _ inner => least != 0 && inner.takesCharacters
  | group _ inner => inner.takesCharacters
  | sequence parts => anyTakesCharacters false parts
  | choice alternatives => allTakeCharacters true alternatives

/-- Whether a pattern of a list takes characters, or one in front of it. -/
def anyTakesCharacters (found : Bool) : List Pattern → Bool
  | [] => found
  | pattern :: rest => anyTakesCharacters (found || pattern.takesCharacters) rest

/-- Whether the patterns of a list take characters, and those in front of it. -/
def allTakeCharacters (found : Bool) : List Pattern → Bool
  | [] => found
  | pattern :: rest => allTakeCharacters (found && pattern.takesCharacters) rest

end

/-- Whether a repetition of a pattern makes its way in each round. -/
def advances (pattern : Pattern) : Bool :=
  pattern.takesCharacters && !pattern.hasNothing

/-- The size of a repetition of a pattern with a size. -/
def repeatedSize
    (least : Nat)
    (most : Option Nat)
    (advances : Bool)
    (size : Nat) : Nat :=
  match least, most with
  | 0, none =>
      if advances then size + splitSize 2
      else size + 2 * splitSize 2 + stateSize
  | least, none => least * size + splitSize 2
  | 0, some 1 => size + splitSize 2 + stateSize
  | least, some most =>
      if least = most then most * size
      else
        max stateSize (least * size) + stateSize +
          (most - least) * (size + splitSize 2)

mutual

/-- The size of a pattern. Groups are noted forwards only. -/
def size (direction : Direction) : Pattern → Nat
  | empty | test _ => stateSize
  | literal text => stateSize * (bytesOf direction text).length
  | oneOf set => setSize direction set
  | repeated least most _ inner =>
      repeatedSize least most inner.advances (size direction inner)
  | group _ inner =>
      size direction inner +
        if direction = .forwards then 2 * stateSize else 0
  | sequence parts => sizes direction 0 parts
  | choice alternatives =>
      match textsOf? alternatives with
      | some texts =>
          let texts := texts.map (bytesOf direction)
          let longest := texts.foldl (fun longest text => max longest text.length) 0
          stateSize + textsSize (longest + 1) texts
      | none =>
          splitSize alternatives.length + stateSize +
            sizes direction 0 alternatives

/-- The sizes of the patterns of a list, added to one. -/
def sizes (direction : Direction) (sum : Nat) : List Pattern → Nat
  | [] => sum
  | pattern :: rest => sizes direction (sum + size direction pattern) rest

end

mutual

/-- Whether what a pattern describes begins at the start of the text. -/
def beginsText : Pattern → Bool
  | test .textStart => true
  | empty | literal _ | oneOf _ | test _ => false
  | repeated least _ _ inner => least != 0 && inner.beginsText
  | group _ inner => inner.beginsText
  | sequence parts => anyBeginsText parts
  | choice alternatives => allBeginText alternatives

/-- Whether one of the first parts begins at the start of the text. -/
def anyBeginsText : List Pattern → Bool
  | [] => false
  | pattern :: rest =>
      pattern.beginsText || (pattern.isEmptyOnly && anyBeginsText rest)

/-- Whether all alternatives begin at the start of the text. -/
def allBeginText : List Pattern → Bool
  | [] => true
  | pattern :: rest => pattern.beginsText && allBeginText rest

end

mutual

/-- Whether what a pattern describes ends at the end of the text. -/
def endsText : Pattern → Bool
  | test .textEnd => true
  | empty | literal _ | oneOf _ | test _ => false
  | repeated least _ _ inner => least != 0 && inner.endsText
  | group _ inner => inner.endsText
  | sequence parts => anyEndsText false parts
  | choice alternatives => allEndText alternatives

/-- Whether one of the last parts ends at the end of the text, or one in front
of the list if nothing but empty texts follows it. -/
def anyEndsText (found : Bool) : List Pattern → Bool
  | [] => found
  | pattern :: rest =>
      anyEndsText (pattern.endsText || (pattern.isEmptyOnly && found)) rest

/-- Whether all alternatives end at the end of the text. -/
def allEndText : List Pattern → Bool
  | [] => true
  | pattern :: rest => pattern.endsText && allEndText rest

end

/-- The size of the machine of a pattern. One that need not begin at an end of
the text passes over what is in front. -/
def machineSize (direction : Direction) (pattern : Pattern) : Nat :=
  let (isAnchored, notes) :=
    match direction with
    | .forwards => (pattern.beginsText, 2 * stateSize)
    | .backwards => (pattern.endsText, 0)
  let passes :=
    if isAnchored then stateSize
    else splitSize 2 + stateSize + readSize 1
  passes + notes + pattern.size direction + stateSize

mutual

/-- Whether all tests of a pattern can be made. -/
def isAvailable : Pattern → Bool
  | test (.scriptWord _) => false
  | empty | literal _ | oneOf _ | test _ => true
  | repeated _ _ _ inner | group _ inner => inner.isAvailable
  | sequence parts | choice parts => areAvailable parts

/-- Whether all tests of the patterns of a list can be made. -/
def areAvailable : List Pattern → Bool
  | [] => true
  | pattern :: rest => pattern.isAvailable && areAvailable rest

end

/-- Whether a pattern is of use. -/
def isUsable (pattern : Pattern) : Bool :=
  pattern.isAvailable &&
    pattern.machineSize .forwards ≤ greatestSize &&
    pattern.machineSize .backwards ≤ greatestSize

end Pattern
end CalculatorTrials
