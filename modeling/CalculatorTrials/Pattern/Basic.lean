import CalculatorTrials.Pattern.CharacterSet

/-!
# Patterns

A pattern describes texts. Its parts stand for characters and for tests of the
place that they stand at. Patterns are put together by functions that leave out
what changes nothing: neighbouring characters become one text, sequences in
sequences and choices in choices are opened, and choices of characters become
sets.
-/

namespace CalculatorTrials
namespace Pattern

/-- A test of the characters around a place for being parts of words. -/
inductive WordTest where
  | edge
  | noEdge
  | start
  | stop
  /-- Nothing of a word in front. -/
  | startHalf
  /-- Nothing of a word behind. -/
  | stopHalf
  deriving DecidableEq, Repr

namespace WordTest

/-- Whether a test holds between two characters, told by whether they are parts
of words. -/
def holds : WordTest → (before after : Bool) → Bool
  | edge, before, after => before != after
  | noEdge, before, after => before == after
  | start, before, after => !before && after
  | stop, before, after => before && !after
  | startHalf, before, _ => !before
  | stopHalf, _, after => !after

end WordTest

/-- A test of a place. -/
inductive Anchor where
  | textStart
  | textEnd
  /-- The start of a line. Where carriage returns end lines, so does a carriage
  return and a line feed, between which no line starts. -/
  | lineStart (carriageReturns : Bool)
  | lineEnd (carriageReturns : Bool)
  | word (test : WordTest)
  /-- A test for parts of words in all scripts, of which there is no table. -/
  | scriptWord (test : WordTest)
  deriving DecidableEq, Repr

namespace Anchor

/-- Whether a test holds between two characters, of which those at the ends of
the text are missing. -/
def holds
    (anchor : Anchor)
    (before after : Option Char) : Bool :=
  let isWord := CharacterClass.word.contains
  match anchor with
  | textStart => before.isNone
  | textEnd => after.isNone
  | lineStart false => before.all (· == '\n')
  | lineEnd false => after.all (· == '\n')
  | lineStart true =>
      before.all (· == '\n') || (before == some '\r' && after != some '\n')
  | lineEnd true =>
      after.all (· == '\r') || (after == some '\n' && before != some '\r')
  | word test => test.holds (before.any isWord) (after.any isWord)
  | scriptWord _ => false

end Anchor
end Pattern

/-- A description of texts. -/
inductive Pattern where
  /-- The empty text. -/
  | empty
  /-- A text that is not empty. -/
  | literal (text : List Char)
  /-- The texts of one character of a set. -/
  | oneOf (set : Pattern.CharacterSet)
  /-- The empty text where a test holds. -/
  | test (anchor : Pattern.Anchor)
  /-- A pattern, from the least number of times on and up to the most. That
  fewer times are preferred does not change what is described. -/
  | repeated
      (least : Nat)
      (most : Option Nat)
      (prefersFewer : Bool)
      (inner : Pattern)
  /-- A group, by its number in the order of opening brackets. -/
  | group (number : Nat) (inner : Pattern)
  | sequence (parts : List Pattern)
  | choice (alternatives : List Pattern)

namespace Pattern

mutual

/-- Whether two patterns are put together in the same way. -/
def isSame : Pattern → Pattern → Bool
  | empty, empty => true
  | literal text, literal other => text == other
  | oneOf set, oneOf other => set == other
  | test anchor, test other => anchor == other
  | repeated least most prefersFewer inner, other =>
      match other with
      | repeated least' most' prefersFewer' inner' =>
          least == least' && most == most' && prefersFewer == prefersFewer' &&
            inner.isSame inner'
      | _ => false
  | group number inner, group number' inner' =>
      number == number' && inner.isSame inner'
  | sequence parts, sequence parts' => areSame parts parts'
  | choice alternatives, choice alternatives' =>
      areSame alternatives alternatives'
  | _, _ => false

/-- Whether the patterns of two lists are put together in the same way. -/
def areSame : List Pattern → List Pattern → Bool
  | [], [] => true
  | pattern :: rest, pattern' :: rest' =>
      pattern.isSame pattern' && areSame rest rest'
  | _, _ => false

end

mutual

/-- Whether a pattern can describe the empty text only. -/
def isEmptyOnly : Pattern → Bool
  | empty | test _ => true
  | literal _ | oneOf _ => false
  | repeated _ most _ inner => most.isSome && inner.isEmptyOnly
  | group _ inner => inner.isEmptyOnly
  | sequence parts | choice parts => areEmptyOnly parts

/-- Whether all patterns of a list can describe the empty text only. -/
def areEmptyOnly : List Pattern → Bool
  | [] => true
  | pattern :: rest => pattern.isEmptyOnly && areEmptyOnly rest

end

/-- The pattern of the characters of a set. -/
def ofSet (set : CharacterSet) : Pattern :=
  match set.only? with
  | some character => literal [character]
  | none => oneOf set

/-- The patterns that a part of a sequence adds to it. -/
def sequenceParts : Pattern → List Pattern
  | sequence parts => parts
  | empty => []
  | pattern => [pattern]

/-- Patterns with a text in front of them, both given backwards. -/
def addText (patterns : List Pattern) (text : List Char) : List Pattern :=
  if text.isEmpty then patterns else literal text.reverse :: patterns

/-- Patterns with neighbouring texts joined. -/
def joinTexts (patterns : List Pattern) : List Pattern :=
  let (joined, text) := patterns.foldl
    (fun (joined, text) pattern =>
      match pattern with
      | literal more => (joined, more.reverse ++ text)
      | pattern => (pattern :: addText joined text, []))
    ([], [])
  (addText joined text).reverse

/-- Patterns one behind the other. -/
def sequenceOf (patterns : List Pattern) : Pattern :=
  match joinTexts (patterns.flatMap sequenceParts) with
  | [] => empty
  | [pattern] => pattern
  | parts => sequence parts

/-- The patterns that an alternative adds to a choice. -/
def choiceParts : Pattern → List Pattern
  | choice alternatives => alternatives
  | pattern => [pattern]

/-- The set of alternatives that are all texts of one character, or all sets. -/
def setOf? (alternatives : List Pattern) : Option CharacterSet :=
  let single : Pattern → Option CharacterSet
    | literal [character] => some (.single character)
    | _ => none
  let whole : Pattern → Option CharacterSet
    | oneOf set => some set
    | _ => none
  (alternatives.mapM single <|> alternatives.mapM whole).map .unionOf

/-- The number of parts that two sequences have in common at the start. -/
def commonCount (parts : List Pattern) : Pattern → Nat
  | sequence others =>
      ((parts.zip others).takeWhile fun (part, other) => part.isSame other).length
  | _ => 0

/-- The parts at the start of all alternatives, and what follows in each. -/
def commonStart?
    (alternatives : List Pattern) : Option (List Pattern × List Pattern) :=
  match alternatives with
  | sequence parts :: others =>
      let count := others.foldl
        (fun count other => min count (commonCount parts other)) parts.length
      if count = 0 then none
      else
        let behind : Pattern → Pattern
          | sequence parts => sequenceOf (parts.drop count)
          | pattern => pattern
        some (parts.take count, alternatives.map behind)
  | _ => none

/-- One pattern of several. Common parts at the start are taken out, and so are
those of what is left, up to a number of times. -/
def choiceOfUpTo (count : Nat) (patterns : List Pattern) : Pattern :=
  match patterns.flatMap choiceParts with
  | [] => oneOf .nothing
  | [pattern] => pattern
  | alternatives =>
      match setOf? alternatives, count, commonStart? alternatives with
      | some set, _, _ => ofSet set
      | none, count + 1, some (start, ends) =>
          sequenceOf (start ++ [choiceOfUpTo count ends])
      | none, _, _ => choice alternatives

/-- How deeply patterns may be nested. -/
def greatestDepth : Nat := 250

/-- One pattern of several. -/
def choiceOf (patterns : List Pattern) : Pattern :=
  choiceOfUpTo greatestDepth patterns

/-- A pattern a number of times. One that can describe the empty text only is
not needed twice. -/
def repeatOf
    (least : Nat)
    (most : Option Nat)
    (prefersFewer : Bool)
    (inner : Pattern) : Pattern :=
  let once := inner.isEmptyOnly
  let least := if once then min least 1 else least
  let most := if once then some (most.elim 1 (min · 1)) else most
  if most = some 0 then empty
  else if least = 1 ∧ most = some 1 then inner
  else repeated least most prefersFewer inner

end Pattern
end CalculatorTrials
