import CalculatorTrials.Pattern.Basic

/-!
# Following patterns through texts

A pattern is followed through a text on all its ways at once. Its characters
are the leaves of a tree, and a leaf is marked while the character that has just
been read may have been the one of the leaf. A new way begins at every place of
the text. Parts of the tree that no mark and no test can change stay as they
are, and neighbouring copies of a part are kept as one while their marks are the
same.
-/

namespace CalculatorTrials
namespace Pattern

/-- What is known about a part of a pattern at a place of a text. -/
structure Standing where
  /-- Whether a leaf is marked. -/
  isMarked : Bool
  /-- Whether there are tests in it. -/
  hasTests : Bool
  /-- Whether the empty text at this place is described. -/
  takesNothing : Bool
  /-- Whether a text that ends at this place is described. -/
  isDone : Bool

namespace Standing

/-- What is known about nothing. -/
def nothing : Standing := ⟨false, false, true, false⟩

/-- What is known about two parts one behind the other. -/
def behind (left right : Standing) : Standing where
  isMarked := left.isMarked || right.isMarked
  hasTests := left.hasTests || right.hasTests
  takesNothing := left.takesNothing && right.takesNothing
  isDone := right.isDone || (left.isDone && right.takesNothing)

/-- What is known about one of two parts. -/
def beside (left right : Standing) : Standing where
  isMarked := left.isMarked || right.isMarked
  hasTests := left.hasTests || right.hasTests
  takesNothing := left.takesNothing || right.takesNothing
  isDone := left.isDone || right.isDone

/-- Whether a way leaves a part, if one begins in front of it or none. -/
def isLeft (standing : Standing) (begins : Bool) : Bool :=
  (begins && standing.takesNothing) || standing.isDone

/-- Whether the part can change when a character is read. -/
def canChange (standing : Standing) (begins : Bool) : Bool :=
  begins || standing.isMarked || standing.hasTests

end Standing

mutual

/-- A pattern that is followed through a text. -/
inductive Progress where
  | nothing
  | leaf (set : CharacterSet) (marked : Bool)
  /-- A test, and whether it holds. -/
  | test (anchor : Anchor) (holds : Bool)
  | join (standing : Standing) (first second : Progress)
  | fork (standing : Standing) (first second : Progress)
  /-- A pattern once or more often. -/
  | loop (standing : Standing) (inner : Progress)
  /-- A pattern a number of times. -/
  | copies (standing : Standing) (runs : Runs)

/-- Neighbouring copies of a pattern, those with the same marks together. -/
inductive Runs where
  | none
  | run (count : Nat) (part : Progress) (rest : Runs)

end

namespace Progress

/-- What is known about a part. -/
def standing : Progress → Standing
  | nothing => .nothing
  | leaf _ marked => ⟨marked, false, false, marked⟩
  | test _ holds => ⟨false, true, holds, false⟩
  | join standing .. | fork standing .. => standing
  | loop standing _ | copies standing _ => standing

/-- Two parts one behind the other. -/
def joined (first second : Progress) : Progress :=
  join (first.standing.behind second.standing) first second

/-- One of two parts. -/
def forked (first second : Progress) : Progress :=
  fork (first.standing.beside second.standing) first second

/-- A part once or more often. -/
def looped (inner : Progress) : Progress :=
  loop inner.standing inner

mutual

/-- Whether two copies of a pattern at a place have the same marks. -/
def hasSameMarks (progress other : Progress) : Bool :=
  if !progress.standing.isMarked && !other.standing.isMarked then true
  else
    match progress, other with
    | leaf _ marked, leaf _ marked' => marked == marked'
    | join _ first second, join _ first' second'
    | fork _ first second, fork _ first' second' =>
        first.hasSameMarks first' && second.hasSameMarks second'
    | loop _ inner, loop _ inner' => inner.hasSameMarks inner'
    | copies _ runs, copies _ runs' => runsHaveSameMarks runs runs'
    | _, _ => false

/-- Whether the copies of two repetitions have the same marks. -/
def runsHaveSameMarks : Runs → Runs → Bool
  | .none, .none => true
  | .run count part rest, .run count' part' rest' =>
      count == count' && part.hasSameMarks part' && runsHaveSameMarks rest rest'
  | _, _ => false

end

end Progress

namespace Runs

/-- Add copies of a part in front of others. -/
def push (runs : Runs) (count : Nat) (part : Progress) : Runs :=
  match count, runs with
  | 0, runs => runs
  | count, .none => .run count part .none
  | count, .run count' part' rest =>
      if part.hasSameMarks part' then .run (count + count') part' rest
      else .run count part (.run count' part' rest)

/-- Copies in the other order, with others behind them. -/
def reverseOnto (behind : Runs) : Runs → Runs
  | .none => behind
  | .run count part rest => reverseOnto (.run count part behind) rest

/-- What is known about copies, with something in front. Several copies with
the same marks are like one. -/
def standingBehind (standing : Standing) : Runs → Standing
  | .none => standing
  | .run _ part rest => standingBehind (standing.behind part.standing) rest

end Runs

namespace Progress

/-- Copies of parts one behind the other. -/
def ofRuns (runs : Runs) : Progress :=
  copies (runs.standingBehind .nothing) runs

/-- A part from a least number of times on and up to the most. -/
def repeated
    (least : Nat)
    (most : Option Nat)
    (inner : Progress) : Progress :=
  let times (count : Nat) (part : Progress) :=
    ofRuns (Runs.none.push count part)
  match least, most with
  | 0, none => forked nothing (looped inner)
  | least + 1, none => joined (times least inner) (looped inner)
  | least, some most =>
      joined (times least inner) (times (most - least) (forked nothing inner))

mutual

/-- A pattern at the start of a text, in front of a character or none. -/
def ofPattern (after : Option Char) : Pattern → Progress
  | .empty => nothing
  | .literal text =>
      combineAll joined nothing
        (text.map fun character => leaf (.single character) false)
  | .oneOf set => leaf set false
  | .test anchor => test anchor (anchor.holds none after)
  | .repeated least most _ inner => repeated least most (ofPattern after inner)
  | .group _ inner => ofPattern after inner
  | .sequence parts =>
      combineAll joined nothing (ofPatterns after [] parts)
  | .choice alternatives =>
      combineAll forked (leaf .nothing false) (ofPatterns after [] alternatives)

/-- The patterns of a list at the start of a text, behind others that are given
backwards. -/
def ofPatterns
    (after : Option Char)
    (reversed : List Progress) : List Pattern → List Progress
  | [] => reversed.reverse
  | pattern :: rest =>
      ofPatterns after (ofPattern after pattern :: reversed) rest

end

mutual

/-- Read a character that is in front of another one or none. It is told whether
a way begins in front of the part. -/
def read
    (character : Char)
    (after : Option Char)
    (begins : Bool)
    (progress : Progress) : Progress :=
  if !progress.standing.canChange begins then progress
  else
    match progress with
    | nothing => nothing
    | leaf set _ => leaf set (begins && set.contains character)
    | test anchor _ => test anchor (anchor.holds (some character) after)
    | join _ first second =>
        joined (first.read character after begins)
          (second.read character after (first.standing.isLeft begins))
    | fork _ first second =>
        forked (first.read character after begins)
          (second.read character after begins)
    | loop _ inner =>
        looped (inner.read character after (begins || inner.standing.isDone))
    | copies _ runs => ofRuns (readRuns character after begins .none runs)

/-- Read a character in copies behind others that are given backwards. Of copies
with the same marks, a way begins in front of the first one as it does in front
of all, and in front of the others if it leaves the one before. -/
def readRuns
    (character : Char)
    (after : Option Char)
    (begins : Bool)
    (reversed : Runs) : Runs → Runs
  | .none => Runs.none.reverseOnto reversed
  | .run count part rest =>
      let leaves := part.standing.isLeft begins
      let first := part.read character after begins
      let others :=
        if leaves == begins then first else part.read character after leaves
      readRuns character after leaves
        ((reversed.push 1 first).push (count - 1) others) rest

end

/-- Whether a part of the text read so far is described. -/
def hasOccurred (progress : Progress) : Bool :=
  progress.standing.isDone || progress.standing.takesNothing

/-- Whether a part of a text is described that ends at this place or behind. -/
def occurs (progress : Progress) : List Char → Bool
  | [] => progress.hasOccurred
  | character :: rest =>
      if progress.hasOccurred then true
      else (progress.read character rest.head? true).occurs rest

end Progress

/-- Whether a text has a part that a pattern describes. -/
def occursIn (pattern : Pattern) (text : String) : Bool :=
  let characters := text.toList
  (Progress.ofPattern characters.head? pattern).occurs characters

end Pattern
end CalculatorTrials
