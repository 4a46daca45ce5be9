import CalculatorTrials.Calculation.Basic
import CalculatorTrials.Calculation.Terminal
import CalculatorTrials.Decimal.Numeral
import CalculatorTrials.Text.Place

/-!
# Reading a line of input

A line is read from left to right, one character at a time, and the reader
stops at the first character that no line could have at its place. It keeps the
work that waits for an operand, for the whole line and for every group that is
still open. What may come next can be read off its state.

Additive operators bind loosest and multiplicative ones tighter; both group to
the left. A sign in front of an operand binds tightest. Blanks may stand
anywhere but inside a numeral.
-/

namespace CalculatorTrials

/-- The work of one group that waits for an operand. -/
structure Pending where
  /-- The terms read so far, and the operator behind them. -/
  sum : Option (Calculation × Additive)
  /-- The factors of the current term, and the operator behind them. -/
  product : Option (Calculation × Multiplicative)
  /-- The number of minus signs in front of the operand. -/
  minuses : Nat
  deriving DecidableEq, Repr

namespace Pending

/-- Nothing waits at the start of a group. -/
def empty : Pending := ⟨none, none, 0⟩

/-- The operand with its signs. -/
def signed (pending : Pending) (operand : Calculation) : Calculation :=
  pending.minuses.repeat .negate operand

/-- The term that ends with an operand. -/
def term (pending : Pending) (operand : Calculation) : Calculation :=
  match pending.product with
  | none => pending.signed operand
  | some (left, operator) =>
      .binary (.multiplicative operator) left (pending.signed operand)

/-- The sum that ends with an operand. -/
def total (pending : Pending) (operand : Calculation) : Calculation :=
  match pending.sum with
  | none => pending.term operand
  | some (left, operator) =>
      .binary (.additive operator) left (pending.term operand)

/-- What waits after an operand and an operator. -/
def push (pending : Pending) (operand : Calculation) : Operator → Pending
  | .additive operator => ⟨some (pending.total operand, operator), none, 0⟩
  | .multiplicative operator =>
      ⟨pending.sum, some (pending.term operand, operator), 0⟩

end Pending

/-- Where a reader stands in relation to an operand. -/
inductive Phase where
  /-- An operand has to come. -/
  | operand
  /-- The characters read last are the start of a numeral. -/
  | numeral (scan : Numeral.Scan)
  /-- An operand has been read to its end. -/
  | complete (operand : Calculation)
  deriving DecidableEq, Repr

namespace Phase

/-- The operand that ends here, if one can. -/
def operand? : Phase → Option Calculation
  | .operand => none
  | .numeral scan => scan.decimal?.map .number
  | .complete calculation => some calculation

end Phase

/-- The state of reading a line. -/
structure Reader where
  /-- The work around each open group, the innermost first. -/
  outer : List Pending
  /-- The work of the innermost group. -/
  pending : Pending
  /-- The place in relation to an operand. -/
  phase : Phase
  deriving DecidableEq, Repr

/-- The operator of a character. -/
def Operator.ofCharacter? : Char → Option Operator
  | '+' => some .add
  | '-' => some .sub
  | '*' => some .mul
  | '/' => some .div
  | _ => none

namespace Reader

/-- The state at the start of a line. -/
def start : Reader := ⟨[], .empty, .operand⟩

/-- Read the character where an operand has to come. -/
def stepOperand? (reader : Reader) (character : Char) : Option Reader :=
  if isBlank character ∨ character = '+' then some reader
  else if character = '-' then
    some { reader with
      pending.minuses := reader.pending.minuses + 1 }
  else if character = '(' then
    some ⟨reader.pending :: reader.outer, .empty, .operand⟩
  else
    (Numeral.Scan.start? character).map fun scan =>
      { reader with phase := .numeral scan }

/-- Read the character behind an operand. -/
def stepBehind?
    (reader : Reader)
    (operand : Calculation)
    (character : Char) : Option Reader :=
  if isBlank character then some { reader with phase := .complete operand }
  else if character = ')' then
    match reader.outer with
    | [] => none
    | pending :: outer =>
        some ⟨outer, pending, .complete (reader.pending.total operand)⟩
  else
    (Operator.ofCharacter? character).map fun operator =>
      ⟨reader.outer, reader.pending.push operand operator, .operand⟩

/-- Read one more character of a line. A numeral is read as far as it goes. -/
def step? (reader : Reader) (character : Char) : Option Reader :=
  match reader.phase with
  | .operand => reader.stepOperand? character
  | .complete operand => reader.stepBehind? operand character
  | .numeral scan =>
      match scan.step? character with
      | some next => some { reader with phase := .numeral next }
      | none => do reader.stepBehind? (.number (← scan.decimal?)) character

/-- The calculation of a line that ends here. -/
def finish? (reader : Reader) : Option Calculation :=
  match reader.outer with
  | [] => reader.phase.operand?.map reader.pending.total
  | _ :: _ => none

/-- Whether a terminal may come where an operand has to. -/
def expectsOperand : Terminal → Bool
  | .openGroup | .plus | .minus | .point | .blank | .digit => true
  | _ => false

/-- Whether a terminal may continue a numeral. -/
def expectsInside : Numeral.Scan → Terminal → Bool
  | _, .digit => true
  | .whole _, .point => true
  | .whole _, .exponentLetter => true
  | .fraction .., .exponentLetter => true
  | .marker .., .exponentSign => true
  | _, _ => false

/-- Whether a terminal may come behind an operand. -/
def expectsBehind (reader : Reader) : Terminal → Bool
  | .times | .divide | .plus | .minus | .blank => true
  | .closeGroup => !reader.outer.isEmpty
  | .endOfLine => reader.outer.isEmpty
  | _ => false

/-- Whether a terminal may come next. -/
def expects (reader : Reader) (terminal : Terminal) : Bool :=
  match reader.phase with
  | .operand => expectsOperand terminal
  | .complete _ => reader.expectsBehind terminal
  | .numeral scan =>
      expectsInside scan terminal ||
        scan.decimal?.isSome && reader.expectsBehind terminal

end Reader

/-- Why a line cannot be read. -/
structure Refusal where
  /-- The place of the character that cannot be read. -/
  place : Place
  /-- What may come there. -/
  expected : List Terminal
  deriving DecidableEq, Repr

namespace Refusal

/-- The text of a refusal. Every place expects some terminal. -/
def text (refusal : Refusal) : String :=
  let names := ", ".intercalate (refusal.expected.map Terminal.text)
  let wanted := if refusal.expected.length = 1 then names else "one of " ++ names
  s!"error at {refusal.place.line}:{refusal.place.column}: expected {wanted}"

end Refusal

namespace Reader

/-- The refusal of what comes at a place. -/
def refusal (reader : Reader) (place : Place) : Refusal :=
  ⟨place, Terminal.all.filter reader.expects⟩

/-- Read the rest of a line from a place. -/
def read
    (reader : Reader)
    (place : Place) : List Char → Except Refusal Calculation
  | [] =>
      match reader.finish? with
      | some calculation => .ok calculation
      | none => .error (reader.refusal place)
  | character :: rest =>
      match reader.step? character with
      | some next => next.read (place.next character) rest
      | none => .error (reader.refusal place)

end Reader

/-- The calculation that a line says. -/
def Calculation.read (line : List Char) : Except Refusal Calculation :=
  Reader.start.read .start line

end CalculatorTrials
