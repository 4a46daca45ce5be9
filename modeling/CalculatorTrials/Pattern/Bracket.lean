import CalculatorTrials.Pattern.Escape

/-!
# Sets in brackets

Between square brackets stand characters, ranges, classes, further brackets,
and operations on the sets to their left and right. Operations group to the
left. A minus sign and a closing bracket at the start stand for themselves.
-/

namespace CalculatorTrials
namespace Pattern

/-- A set with the number of brackets, unions and operations around its
innermost part. -/
structure NestedSet where
  set : CharacterSet
  depth : Nat

/-- An open bracket. -/
structure Bracket where
  negated : Bool
  /-- The last operation with the set to its left. -/
  left : Option (SetOperation × NestedSet)
  /-- The sets behind it, the last first. -/
  members : List NestedSet

namespace Bracket

/-- Add a set. -/
def add (bracket : Bracket) (member : NestedSet) : Bracket :=
  { bracket with members := member :: bracket.members }

/-- Add a set without parts. -/
def addSet (bracket : Bracket) (set : CharacterSet) : Bracket :=
  bracket.add ⟨set, 0⟩

/-- The union of sets. -/
def unionOf : List NestedSet → NestedSet
  | [] => ⟨.nothing, 0⟩
  | [member] => member
  | members =>
      ⟨.unionOf (members.map (·.set)),
        members.foldl (fun depth member => max depth member.depth) 0 + 1⟩

/-- The set of what stands in an open bracket so far. -/
def inner (bracket : Bracket) : NestedSet :=
  let right := unionOf bracket.members
  match bracket.left with
  | none => right
  | some (operation, left) =>
      ⟨.combine operation left.set right.set, max left.depth right.depth + 1⟩

/-- Begin the right side of an operation. -/
def operate (bracket : Bracket) (operation : SetOperation) : Bracket :=
  { bracket with left := some (operation, bracket.inner), members := [] }

/-- The set of a bracket that is closed. -/
def close? (mode : Mode) (bracket : Bracket) : Option NestedSet := do
  let inner := bracket.inner
  return ⟨← mode.negated? bracket.negated inner.set, inner.depth + 1⟩

/-- Read the minus signs at the start of a bracket. -/
def readSigns
    (mode : Mode)
    (bracket : Bracket) : List Char → Option (Bracket × List Char)
  | '-' :: rest =>
      match mode.members? (.single '-') with
      | some set => readSigns mode (bracket.addSet set) (mode.skip rest)
      | none => none
  | text => some (bracket, text)
  termination_by text => text.length
  decreasing_by exact Nat.lt_succ_of_le (Mode.length_skip_le _ _)

/-- Read the start of a bracket. -/
def read
    (mode : Mode)
    (text : List Char) : Option (Bracket × List Char) := do
  let (negated, text) :=
    match mode.skip text with
    | '^' :: rest => (true, mode.skip rest)
    | text => (false, text)
  let (bracket, text) ← readSigns mode ⟨negated, none, []⟩ text
  match bracket.members, text with
  | [], ']' :: rest =>
      return (bracket.addSet (← mode.members? (.single ']')), mode.skip rest)
  | _, _ => return (bracket, text)

/-- Read a named class, behind its opening bracket. -/
def readName
    (text : List Char) : Option (Bool × CharacterClass × List Char) := do
  let (negated, text) ←
    match text with
    | ':' :: '^' :: rest => some (true, rest)
    | ':' :: rest => some (false, rest)
    | _ => none
  let (name, rest) := text.span (· != ':')
  match rest with
  | ':' :: ']' :: rest => return (negated, ← CharacterClass.ofName? name, rest)
  | _ => none

/-- Read a character of a set, or what stands for several. -/
def readMember
    (mode : Mode) : List Char → Option (Escape × List Char)
  | [] => none
  | '\\' :: rest => Escape.read mode rest
  | character :: rest => some (.character character false, rest)

/-- The end of a range that a character can be. Without Unicode it is an ASCII
character. -/
def endOf? (mode : Mode) : Escape → Option Char
  | .character value _ =>
      if mode.isOn .unicode || value.toNat ≤ 0x7F then some value else none
  | _ => none

/-- The set of a single member. -/
def memberSet? (mode : Mode) : Escape → Option CharacterSet
  | .characterClass value => mode.members? value.set
  | member => do mode.members? (.single (← endOf? mode member))

/-- The next character that counts. Where space is ignored, so is the first
number sign, as its comment is not read. -/
def ahead? (mode : Mode) (text : List Char) : Option Char :=
  if mode.isOn .ignoresSpace then
    match text.dropWhile Text.isWhiteSpace with
    | '#' :: rest => (rest.dropWhile Text.isWhiteSpace).head?
    | text => text.head?
  else text.head?

/-- Read a member or a range. A minus sign is part of a range unless the bracket
or an operation follows it. -/
def readRange
    (mode : Mode)
    (text : List Char) : Option (CharacterSet × List Char) := do
  let (first, rest) ← readMember mode text
  match mode.skip rest with
  | '-' :: more =>
      if ahead? mode more = some ']' ∨ ahead? mode more = some '-' then
        return (← memberSet? mode first, '-' :: more)
      let (last, rest) ← readMember mode (mode.skip more)
      let first ← endOf? mode first
      let last ← endOf? mode last
      guard (first ≤ last)
      return (← mode.members? (.range first last), rest)
  | rest => return (← memberSet? mode first, rest)

/-- What reading one part of a bracket leads to. -/
inductive Step where
  /-- More to read, with the open brackets, the innermost first. -/
  | more (brackets : List Bracket) (rest : List Char)
  | done (set : NestedSet) (rest : List Char)

/-- Read one part of the innermost of some open brackets. -/
def step
    (mode : Mode)
    (bracket : Bracket)
    (outer : List Bracket) : List Char → Option Step
  | [] => none
  | '[' :: rest =>
      match readName rest with
      | some (negated, characterClass, rest) => do
          let set ← mode.negated? negated (← mode.members? characterClass.set)
          return .more (bracket.addSet set :: outer) rest
      | none => do
          let (opened, rest) ← read mode rest
          return .more (opened :: bracket :: outer) rest
  | ']' :: rest => do
      let closed ← bracket.close? mode
      match outer with
      | [] => return .done closed rest
      | around :: outer => return .more (around.add closed :: outer) rest
  | character :: rest =>
      match SetOperation.ofCharacter? character, rest with
      | some operation, other :: more => do
          if other = character then
            return .more (bracket.operate operation :: outer) more
          let (set, rest) ← readRange mode (character :: other :: more)
          return .more (bracket.addSet set :: outer) rest
      | _, rest => do
          let (set, rest) ← readRange mode (character :: rest)
          return .more (bracket.addSet set :: outer) rest

/-- Read open brackets to the end of the outermost, if no more than a number of
parts are left. -/
def readOpen
    (mode : Mode) : (count : Nat) → List Bracket → List Char →
      Option (NestedSet × List Char)
  | 0, _, _ | _, [], _ => none
  | count + 1, bracket :: outer, text =>
      match step mode bracket outer (mode.skip text) with
      | some (.more brackets rest) => readOpen mode count brackets rest
      | some (.done set rest) => some (set, rest)
      | none => none

/-- Read a set behind its opening bracket, if it has no more than a number of
parts. -/
def readSet
    (mode : Mode)
    (count : Nat)
    (text : List Char) : Option (NestedSet × List Char) := do
  let (bracket, text) ← read mode text
  readOpen mode count [bracket] text

end Bracket
end Pattern
end CalculatorTrials
