/-!
# Text without what only a terminal reads

An escape character starts a control sequence, and each kind of sequence has its own end. A cancel or
substitute character ends any of them.

- `Mode`: what is being read, text or a kind of sequence;
- `Mode.next`: what is read after a character, and whether the character is shown;
- `visible`: the characters of a text that are shown. Outside sequences these are all but the controls that
  neither break a line nor leave a gap.

A character beyond ASCII neither belongs to a sequence nor ends one. The exception is a string whose terminator
is a single byte: the encoding of a character may hold it.
-/

namespace Interleave.Text

/-- What a character is part of. -/
inductive Mode
  | text
  /-- after an escape character -/
  | escape
  /-- after an escape character and marks: the next letter or digit ends the sequence -/
  | marked
  /-- in a control sequence, which a letter ends -/
  | control
  /-- before the letter that opens a device string -/
  | device
  /-- the same, after a number -/
  | deviceNumber
  /-- the same, after marks -/
  | deviceMarks
  /-- in a string that only its terminator ends -/
  | string
  /-- in a command, which a bell ends -/
  | command
  deriving DecidableEq, Repr

/-- The terminator of strings, as a byte. -/
def terminator : UInt8 := 0x9c

/-- Controls that are shown: they break a line or leave a gap. -/
def isBreak (c : Char) : Bool := c == '\t' || c == '\n' || c == '\x0c' || c == '\r'

def isControl (c : Char) : Bool := c < ' ' || c == '\x7f'

namespace Mode

/-- The mode after a character inside a sequence that does not end every sequence. -/
def advance (m : Mode) (c : Char) : Mode :=
  match m with
  | command => if c = '\x07' then text else command
  | string => if (String.utf8EncodeChar c).contains terminator then text else string
  | m =>
    if isControl c || '~' < c then m
    else
      match m with
      | escape =>
        if c = '[' then control
        else if c = ']' then command
        else if c = 'P' then device
        else if c = 'X' || c = '^' || c = '_' then string
        else if c < '0' then marked
        else text
      | marked => if c < '0' then marked else text
      | control => if c < '@' then control else text
      | device => if c < '0' then deviceMarks else if c < '@' then deviceNumber else string
      | deviceNumber => if c < '0' then deviceMarks else if c < '<' then deviceNumber else string
      | deviceMarks => if c < '0' then deviceMarks else string
      | m => m

/-- The mode after a character, and whether the character is shown. A break that stands in a sequence of single
characters is shown, and what follows it is text. -/
def next (m : Mode) (c : Char) : Mode × Bool :=
  if c = '\x1b' then (escape, false)
  else if c = '\x18' || c = '\x1a' then (text, false)
  else
    match m with
    | text => (text, isBreak c || !isControl c)
    | escape | marked | control => if isBreak c then (text, true) else (m.advance c, false)
    | m => (m.advance c, false)

/-- The characters that are shown when reading starts in the given mode. -/
def visible (m : Mode) : List Char → List Char
  | [] => []
  | c :: cs =>
    match m.next c with
    | (m', true) => c :: visible m' cs
    | (m', false) => visible m' cs

end Mode

/-- The characters of a text that are shown. -/
def visible (s : String) : String := String.ofList (Mode.text.visible s.toList)

end Interleave.Text
