import CalculatorTrials.Pattern.Balanced

/-!
# Sets of characters

A set is given by its edges: the ascending code points where by turns it begins
and ends. Edges are the same for all ways to write a set, and an operation on
sets passes once over the edges of both.
-/

namespace CalculatorTrials
namespace Pattern

/-- A set of characters. -/
structure CharacterSet where
  /-- Where the set begins and ends by turns, in ascending order. -/
  edges : List Nat
  deriving DecidableEq, Repr

/-- How two sets are made one. -/
inductive SetOperation where
  | intersection
  | difference
  | symmetricDifference
  deriving DecidableEq, Repr

namespace SetOperation

/-- All operations. -/
def all : List SetOperation := [intersection, difference, symmetricDifference]

/-- The character that stands twice for an operation. -/
def character : SetOperation → Char
  | intersection => '&'
  | difference => '-'
  | symmetricDifference => '~'

/-- The operation of a character that stands twice. -/
def ofCharacter? (wanted : Char) : Option SetOperation :=
  all.find? (·.character == wanted)

/-- Whether a set made from two has an element that each of them has or not. -/
def holds : SetOperation → Bool → Bool → Bool
  | intersection, left, right => left && right
  | difference, left, right => left && !right
  | symmetricDifference, left, right => left != right

end SetOperation

namespace CharacterSet

/-- Whether a code point lies behind an odd number of edges, counted on from
whether it already does. -/
def isInside (inside : Bool) (code : Nat) : List Nat → Bool
  | [] => inside
  | edge :: rest =>
      if code < edge then inside else isInside (!inside) code rest

/-- Whether a character lies in a set. -/
def contains (set : CharacterSet) (character : Char) : Bool :=
  isInside false character.toNat set.edges

/-- The set without characters. -/
def nothing : CharacterSet := ⟨[]⟩

/-- The set of all characters. No character is a surrogate. -/
def everything : CharacterSet := ⟨[0, 0xD800, 0xE000, 0x110000]⟩

/-- The set of one character. -/
def single (character : Char) : CharacterSet :=
  ⟨[character.toNat, character.toNat + 1]⟩

/-- The characters from the first to the last. -/
def range (first last : Char) : CharacterSet :=
  let surrogates :=
    if first.toNat < 0xD800 ∧ 0xE000 ≤ last.toNat then [0xD800, 0xE000] else []
  ⟨first.toNat :: surrogates ++ [last.toNat + 1]⟩

/-- Put an edge in front of those found, which are given backwards, if a set
begins or ends there. -/
def turn
    (edge : Nat)
    (before after : Bool)
    (found : List Nat) : List Nat :=
  if before = after then found else edge :: found

/-- The edges of a set made from two, from the edges that are left of them and
from whether the places in front lie in them. -/
def sweep
    (holds : Bool → Bool → Bool)
    (inLeft inRight : Bool)
    (found : List Nat) : (left right : List Nat) → List Nat
  | [], [] => found.reverse
  | edge :: left, [] =>
      let found := turn edge (holds inLeft inRight) (holds (!inLeft) inRight) found
      sweep holds (!inLeft) inRight found left []
  | [], edge :: right =>
      let found := turn edge (holds inLeft inRight) (holds inLeft (!inRight)) found
      sweep holds inLeft (!inRight) found [] right
  | edge :: left, other :: right =>
      if edge < other then
        let found :=
          turn edge (holds inLeft inRight) (holds (!inLeft) inRight) found
        sweep holds (!inLeft) inRight found left (other :: right)
      else if other < edge then
        let found :=
          turn other (holds inLeft inRight) (holds inLeft (!inRight)) found
        sweep holds inLeft (!inRight) found (edge :: left) right
      else
        let found :=
          turn edge (holds inLeft inRight) (holds (!inLeft) (!inRight)) found
        sweep holds (!inLeft) (!inRight) found left right
  termination_by left right => left.length + right.length

/-- The set made from two by an operation. -/
def combine
    (operation : SetOperation)
    (left right : CharacterSet) : CharacterSet :=
  ⟨sweep operation.holds false false [] left.edges right.edges⟩

/-- The characters of two sets. -/
def union (left right : CharacterSet) : CharacterSet :=
  ⟨sweep or false false [] left.edges right.edges⟩

/-- The characters of all sets of a list. -/
def unionOf (sets : List CharacterSet) : CharacterSet :=
  combineAll union nothing sets

/-- The characters outside a set. -/
def complement (set : CharacterSet) : CharacterSet :=
  combine .difference everything set

/-- The characters outside a set if it is negated. -/
def negatedIf (negated : Bool) (set : CharacterSet) : CharacterSet :=
  if negated then set.complement else set

/-- The set with the ASCII letters of either case. -/
def anyCase (set : CharacterSet) : CharacterSet :=
  let upper := combine .intersection set (range 'A' 'Z')
  let lower := combine .intersection set (range 'a' 'z')
  union set (union ⟨upper.edges.map (· + 32)⟩ ⟨lower.edges.map (· - 32)⟩)

/-- The only character of a set that has one. -/
def only? (set : CharacterSet) : Option Char :=
  match set.edges with
  | [first, stop] => if stop = first + 1 then some (Char.ofNat first) else none
  | _ => none

/-- Whether all characters of a set are ASCII. -/
def isAscii (set : CharacterSet) : Bool :=
  set.edges.getLastD 0 ≤ 0x80

/-- The first and last code points of the ranges that edges enclose. -/
def rangesOf : List Nat → List (Nat × Nat)
  | first :: stop :: rest => (first, stop - 1) :: rangesOf rest
  | _ => []

/-- The ranges of a set. -/
def ranges (set : CharacterSet) : List (Nat × Nat) :=
  rangesOf set.edges

end CharacterSet

/-- A class of ASCII characters with a name. -/
inductive CharacterClass where
  | alnum
  | alpha
  | ascii
  | blank
  | cntrl
  | digit
  | graph
  | lower
  | print
  | punct
  | space
  | upper
  | word
  | xdigit
  deriving DecidableEq, Repr

namespace CharacterClass

/-- All classes. -/
def all : List CharacterClass :=
  [alnum, alpha, ascii, blank, cntrl, digit, graph, lower, print, punct, space,
    upper, word, xdigit]

/-- The name of a class. -/
def name : CharacterClass → String
  | alnum => "alnum"
  | alpha => "alpha"
  | ascii => "ascii"
  | blank => "blank"
  | cntrl => "cntrl"
  | digit => "digit"
  | graph => "graph"
  | lower => "lower"
  | print => "print"
  | punct => "punct"
  | space => "space"
  | upper => "upper"
  | word => "word"
  | xdigit => "xdigit"

/-- The class with a name. -/
def ofName? (name : List Char) : Option CharacterClass :=
  all.find? (·.name.toList == name)

/-- The first and last characters of the ranges of a class. -/
def ranges : CharacterClass → List (Char × Char)
  | alnum => [('0', '9'), ('A', 'Z'), ('a', 'z')]
  | alpha => [('A', 'Z'), ('a', 'z')]
  | ascii => [('\x00', '\x7f')]
  | blank => [('\t', '\t'), (' ', ' ')]
  | cntrl => [('\x00', '\x1f'), ('\x7f', '\x7f')]
  | digit => [('0', '9')]
  | graph => [('!', '~')]
  | lower => [('a', 'z')]
  | print => [(' ', '~')]
  | punct => [('!', '/'), (':', '@'), ('[', '\x60'), ('\x7b', '~')]
  | space => [('\t', '\r'), (' ', ' ')]
  | upper => [('A', 'Z')]
  | word => [('0', '9'), ('A', 'Z'), ('_', '_'), ('a', 'z')]
  | xdigit => [('0', '9'), ('A', 'F'), ('a', 'f')]

/-- The set of a class. -/
def set (characterClass : CharacterClass) : CharacterSet :=
  .unionOf (characterClass.ranges.map fun (first, last) => .range first last)

/-- Whether a character lies in a class. -/
def contains (characterClass : CharacterClass) (character : Char) : Bool :=
  characterClass.ranges.any fun (first, last) =>
    first ≤ character && character ≤ last

end CharacterClass
end Pattern
end CalculatorTrials
