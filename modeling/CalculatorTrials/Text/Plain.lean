/-!
# Texts without terminal controls

A terminal acts on some characters instead of showing them. An escape character
begins a control, whose first characters say where it ends. What is left when
controls are taken away is the plain text. White space for the layout of lines
stays, also inside the shorter controls, and the characters right behind it are
taken for plain ones until one of them cannot be.
-/

namespace CalculatorTrials
namespace Text

/-- How far a text is inside a control. -/
inductive Control where
  /-- Behind an escape character. -/
  | escape
  /-- Behind an escape character and marks. -/
  | marked
  /-- In a control with parameters. -/
  | sequence
  /-- Where a message to the device begins. -/
  | device
  /-- Behind parameters of a message to the device. -/
  | deviceParameters
  /-- Behind marks of a message to the device. -/
  | deviceMarks
  /-- In a message that a string terminator ends. -/
  | message
  /-- In a message that a bell ends. -/
  | bellMessage
  deriving DecidableEq, Repr

/-- Whether a character lays out lines. -/
def isLayout (character : Char) : Bool :=
  character == '\t' || character == '\n' || character == '\x0c' ||
    character == '\r'

/-- Whether a character outside controls stays. -/
def isPlain (character : Char) : Bool :=
  isLayout character || (0x20 ≤ character.toNat && character.toNat != 0x7F)

/-- Whether a code point lies between two others. -/
def isWithin
    (first last : Nat)
    (character : Char) : Bool :=
  first ≤ character.toNat && character.toNat ≤ last

/-- Whether the encoding of a character has the byte that ends a message. -/
def hasTerminator (character : Char) : Bool :=
  0x80 ≤ character.toNat &&
    (String.utf8EncodeChar character).contains 0x9C

namespace Control

/-- The control that the character behind an escape character begins. -/
def ofCharacter (character : Char) : Option Control :=
  if isWithin 0x20 0x2F character then some marked
  else if character == '[' then some sequence
  else if character == ']' then some bellMessage
  else if character == 'P' then some device
  else if "X^_".contains character then some message
  else if isWithin 0x30 0x7E character then none
  else some escape

/-- How far a text is behind one more character of a control. -/
def next (character : Char) : Control → Option Control
  | escape => ofCharacter character
  | marked => if isWithin 0x30 0x7E character then none else some marked
  | sequence => if isWithin 0x40 0x7E character then none else some sequence
  | device =>
      if isWithin 0x20 0x2F character then some deviceMarks
      else if isWithin 0x30 0x3F character then some deviceParameters
      else if isWithin 0x40 0x7E character then some message
      else some device
  | deviceParameters =>
      if isWithin 0x20 0x2F character then some deviceMarks
      else if isWithin 0x3C 0x7E character then some message
      else some deviceParameters
  | deviceMarks =>
      if isWithin 0x30 0x7E character then some message else some deviceMarks
  | message => if hasTerminator character then none else some message
  | bellMessage => if character == '\x07' then none else some bellMessage

/-- Whether white space stays inside a control. -/
def keepsLayout : Control → Bool
  | escape | marked | sequence => true
  | _ => false

end Control

/-- The control, if any, that a text is in behind a character that does not
stay. -/
def controlBehind
    (control : Option Control)
    (character : Char) : Option Control :=
  if character = '\x1b' then some .escape
  else if character = '\x18' ∨ character = '\x1a' then none
  else control.bind (·.next character)

/-- The plain part of a text inside a control or outside, behind a plain part
given backwards. A character that comes right behind one that stayed is taken
for a plain one. -/
def plainFrom
    (control : Option Control)
    (stayed : Bool)
    (reversed : List Char) : List Char → List Char
  | [] => reversed.reverse
  | character :: rest =>
      if (isPlain character && (stayed || control.isNone)) ||
          (isLayout character && control.any Control.keepsLayout) then
        let control := if character.toNat < 0x80 then control else none
        plainFrom control true (character :: reversed) rest
      else plainFrom (controlBehind control character) false reversed rest

/-- A text without terminal controls. -/
def plain (text : String) : String :=
  String.ofList (plainFrom none false [] text.toList)

/-- A text with its lines after the first set in. -/
def setIn (text : String) : String :=
  String.ofList (text.toList.flatMap fun character =>
    if character = '\n' then "\n    ".toList else [character])

end Text
end CalculatorTrials
