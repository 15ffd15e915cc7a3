import Interleave.Json.Number
import Interleave.Text.Digit
import Interleave.Text.Quoted

/-!
# JSON texts, read as far as they go

A text is read into a tree that keeps everything up to the first fault, so that what comes first in the text,
a fault or a value that is not wanted, decides. A list or an object ends in the fault that stopped it, if one
did; a value that could not be read at all is `Document.broken`.

- `Document.read`: the tree of a text, and what is wrong after it;
- `Document.fault?`: the first fault inside a value that is to be kept. Some faults do not matter in a value
  that is skipped: half a surrogate pair, a number out of range, and nesting deeper than `127`.
-/

namespace Interleave.Json

/-! ## Cursors -/

/-- A place in a text with what is left from there. -/
structure Cursor where
  rest : List Char
  line : Nat := 1
  column : Nat := 0
  deriving Repr

namespace Cursor

def position (c : Cursor) : Position := ⟨c.line, c.column⟩

/-- The place after the next byte. -/
def nextPosition (c : Cursor) : Position :=
  match c.rest with
  | [] => c.position
  | '\n' :: _ => ⟨c.line + 1, 0⟩
  | _ => ⟨c.line, c.column + 1⟩

/-- The cursor behind the next character. -/
def advance (c : Cursor) : Cursor :=
  match c.rest with
  | [] => c
  | '\n' :: rest => ⟨rest, c.line + 1, 0⟩
  | x :: rest => ⟨rest, c.line, c.column + x.utf8Size⟩

/-- The cursor behind the next `n` characters. -/
def skip (c : Cursor) : Nat → Cursor
  | 0 => c
  | n + 1 => c.advance.skip n

/-- The cursor behind the blanks that stand between tokens. -/
def skipBlanks (c : Cursor) : Cursor :=
  c.skip (c.rest.takeWhile fun x => x = ' ' || x = '\t' || x = '\n' || x = '\r').length

end Cursor

/-- What stopped the reading, and where. -/
structure SyntaxFault where
  error : SyntaxError
  place : Position
  deriving DecidableEq, Repr

/-! ## Documents -/

inductive Scalar
  | null
  | bool (b : Bool)
  | number (n : Number)
  /-- a string, or what keeps it from being one if it is to be kept -/
  | string (s : Except SyntaxFault String)

/-- A value as far as it can be read. -/
inductive Document
  | scalar (v : Scalar) (stop : Position)
  | array (start : Position) (items : List Document) (stop : Except SyntaxFault Position)
  | object (start : Position) (members : List (Except SyntaxFault String × Document))
      (stop : Except SyntaxFault Position)
  | broken (fault : SyntaxFault)

/-- The fault at which the reading of a value stopped. -/
def Document.stopped? : Document → Option SyntaxFault
  | .scalar _ _ => none
  | .array _ _ (.error e) | .object _ _ (.error e) | .broken e => some e
  | .array _ _ (.ok _) | .object _ _ (.ok _) => none

/-! ## Leaves -/

/-- Four hexadecimal digits. -/
def readHex (c : Cursor) : Except SyntaxFault (Nat × Cursor) :=
  match c.rest with
  | a :: b :: d :: e :: _ =>
    match Text.hexDigit? a, Text.hexDigit? b, Text.hexDigit? d, Text.hexDigit? e with
    | some a, some b, some d, some e => .ok (((a * 16 + b) * 16 + d) * 16 + e, c.skip 4)
    | _, _, _, _ => .error ⟨.invalidEscape, (c.skip 4).position⟩
  | rest => .error ⟨.endInString, (c.skip rest.length).position⟩

/-- What a text holds after an escape: a character, or half a surrogate pair. -/
abbrev Unescaped := Except SyntaxFault Char

/-- The second half of a surrogate pair, if it follows. -/
def readLowSurrogate (high : Nat) (c : Cursor) : Except SyntaxFault (Unescaped × Cursor) :=
  match c.rest with
  | '\\' :: 'u' :: _ =>
    match readHex (c.skip 2) with
    | .error e => .error e
    | .ok (low, c') =>
      if 0xdc00 ≤ low && low ≤ 0xdfff then
        .ok (.ok (Char.ofNat (0x10000 + (high - 0xd800) * 0x400 + (low - 0xdc00))), c')
      else .ok (.error ⟨.loneSurrogate, c'.position⟩, c)
  | [] | ['\\'] => .error ⟨.endInString, (c.skip c.rest.length).position⟩
  | '\\' :: _ => .ok (.error ⟨.endOfHexEscape, (c.skip 2).position⟩, c)
  | _ => .ok (.error ⟨.endOfHexEscape, c.nextPosition⟩, c)

/-- What follows a backslash. -/
def readEscape (c : Cursor) : Except SyntaxFault (Unescaped × Cursor) :=
  match c.rest with
  | [] => .error ⟨.endInString, c.position⟩
  | x :: _ =>
    let c' := c.advance
    match x with
    | '"' => .ok (.ok '"', c')
    | '\\' => .ok (.ok '\\', c')
    | '/' => .ok (.ok '/', c')
    | 'b' => .ok (.ok '\x08', c')
    | 'f' => .ok (.ok '\x0c', c')
    | 'n' => .ok (.ok '\n', c')
    | 'r' => .ok (.ok '\r', c')
    | 't' => .ok (.ok '\t', c')
    | 'u' =>
      match readHex c' with
      | .error e => .error e
      | .ok (n, c') =>
        if 0xdc00 ≤ n && n ≤ 0xdfff then .ok (.error ⟨.loneSurrogate, c'.position⟩, c')
        else if 0xd800 ≤ n && n ≤ 0xdbff then readLowSurrogate n c'
        else .ok (.ok (Char.ofNat n), c')
    | _ => .error ⟨.invalidEscape, c'.position⟩

/-- The rest of a string after its opening quote. -/
def readString (fuel : Nat) (acc : Except SyntaxFault (List Char)) (c : Cursor) :
    Except SyntaxFault (Except SyntaxFault String × Cursor) :=
  match fuel, c.rest with
  | _, [] => .error ⟨.endInString, c.position⟩
  | 0, _ => .error ⟨.endInString, c.position⟩
  | fuel + 1, x :: _ =>
    if x = '"' then .ok (acc.map fun cs => String.ofList cs.reverse, c.advance)
    else if x = '\\' then
      match readEscape c.advance with
      | .error e => .error e
      | .ok (y, c') => readString fuel (do return (← y) :: (← acc)) c'
    else if x.toNat < 0x20 then .error ⟨.controlCharacter, c.advance.position⟩
    else readString fuel (acc.map (x :: ·)) c.advance

def digitValue (c : Char) : Nat := c.toNat - 0x30

/-- Digits, and the cursor behind them. -/
def readDigits (c : Cursor) : List Nat × Cursor :=
  let ds := c.rest.takeWhile Char.isDigit
  (ds.map digitValue, c.skip ds.length)

/-- What is wrong where a digit was needed. -/
def noDigit (c : Cursor) : SyntaxFault :=
  ⟨if c.rest.isEmpty then .endInValue else .invalidNumber, c.nextPosition⟩

/-- The digits after a point, if there is one. -/
def readFraction (c : Cursor) : Except SyntaxFault (Option (List Nat) × Cursor) :=
  match c.rest with
  | '.' :: _ =>
    let (ds, c') := readDigits c.advance
    if ds.isEmpty then .error (noDigit c') else .ok (some ds, c')
  | _ => .ok (none, c)

/-- The exponent, if there is one. -/
def readExponent (c : Cursor) : Except SyntaxFault (Option Int × Cursor) :=
  match c.rest with
  | 'e' :: _ | 'E' :: _ =>
    let c := c.advance
    let (negative, c) := match c.rest with
      | '+' :: _ => (false, c.advance)
      | '-' :: _ => (true, c.advance)
      | _ => (false, c)
    let (ds, c') := readDigits c
    if ds.isEmpty then .error (noDigit c')
    else
      let n : Nat := ds.foldl (fun n d => n * 10 + d) 0
      .ok (some (if negative then -Int.ofNat n else Int.ofNat n), c')
  | _ => .ok (none, c)

/-- A number literal. -/
def readNumber (c : Cursor) : Except SyntaxFault (Number × Cursor) := do
  let (negative, c) := match c.rest with
    | '-' :: _ => (true, c.advance)
    | _ => (false, c)
  let (whole, c') := readDigits c
  if whole.isEmpty then throw (noDigit c)
  -- a zero stands alone before the point
  if whole.head? = some 0 && whole.length ≠ 1 then throw ⟨.invalidNumber, c.advance.nextPosition⟩
  let (fraction, c') ← readFraction c'
  let (exponent, c') ← readExponent c'
  return (Literal.number ⟨negative, whole, fraction, exponent⟩, c')

/-- One of the three words. -/
def readWord (word : List Char) (v : Scalar) (c : Cursor) : Except SyntaxFault (Scalar × Cursor) :=
  let matching := (word.zip c.rest).takeWhile fun (a, b) => a == b
  if matching.length = word.length then .ok (v, c.skip word.length)
  else
    let at' := c.skip matching.length
    .error (if at'.rest.isEmpty then ⟨.endInValue, at'.position⟩ else ⟨.expectedLiteral, at'.nextPosition⟩)

/-- A value that holds no others. -/
def readScalar (c : Cursor) : Except SyntaxFault (Scalar × Cursor) :=
  match c.rest with
  | [] => .error ⟨.endInValue, c.position⟩
  | 'n' :: _ => readWord "null".toList .null c
  | 't' :: _ => readWord "true".toList (.bool true) c
  | 'f' :: _ => readWord "false".toList (.bool false) c
  | '"' :: rest => (readString rest.length (.ok []) c.advance).map fun (s, c') => (.string s, c')
  | x :: _ =>
    if x = '-' || x.isDigit then (readNumber c).map fun (n, c') => (.number n, c')
    else .error ⟨.expectedValue, c.nextPosition⟩

/-! ## Values -/

mutual

/-- A value, after blanks. -/
def readValue (fuel : Nat) (c : Cursor) : Document × Cursor :=
  let c := c.skipBlanks
  match fuel with
  | 0 => (.broken ⟨.endInValue, c.position⟩, c)
  | fuel + 1 =>
    match c.rest with
    | '[' :: _ =>
      let (items, stop, c') := readItems fuel true c.advance
      (.array c.position items stop, c')
    | '\x7b' :: _ =>
      let (members, stop, c') := readMembers fuel true c.advance
      (.object c.position members stop, c')
    | _ =>
      match readScalar c with
      | .ok (v, c') => (.scalar v c'.position, c')
      | .error e => (.broken e, c)

/-- The items of a list up to its end; `first` if none was read yet. -/
def readItems (fuel : Nat) (first : Bool) (c : Cursor) : List Document × Except SyntaxFault Position × Cursor :=
  let c := c.skipBlanks
  match fuel with
  | 0 => ([], .error ⟨.endInList, c.position⟩, c)
  | fuel + 1 =>
    match c.rest with
    | [] => ([], .error ⟨.endInList, c.position⟩, c)
    | ']' :: _ => ([], .ok c.advance.position, c.advance)
    | ',' :: _ =>
      if first then readItem fuel c
      else
        let after := c.advance.skipBlanks
        match after.rest with
        | ']' :: _ => ([], .error ⟨.trailingComma, after.nextPosition⟩, c)
        | [] => ([], .error ⟨.endInValue, after.position⟩, c)
        | _ => readItem fuel after
    | _ => if first then readItem fuel c else ([], .error ⟨.expectedListCommaOrEnd, c.nextPosition⟩, c)

/-- One item of a list and those after it. -/
def readItem (fuel : Nat) (c : Cursor) : List Document × Except SyntaxFault Position × Cursor :=
  match fuel with
  | 0 => ([], .error ⟨.endInList, c.position⟩, c)
  | fuel + 1 =>
    let (item, c') := readValue fuel c
    match item.stopped? with
    | some e => ([item], .error e, c')
    | none =>
      let (items, stop, c') := readItems fuel false c'
      (item :: items, stop, c')

/-- The members of an object up to its end; `first` if none was read yet. -/
def readMembers (fuel : Nat) (first : Bool) (c : Cursor) :
    List (Except SyntaxFault String × Document) × Except SyntaxFault Position × Cursor :=
  let c := c.skipBlanks
  match fuel with
  | 0 => ([], .error ⟨.endInObject, c.position⟩, c)
  | fuel + 1 =>
    match c.rest with
    | [] => ([], .error ⟨.endInObject, c.position⟩, c)
    | '\x7d' :: _ => ([], .ok c.advance.position, c.advance)
    | ',' :: _ =>
      if first then ([], .error ⟨.keyNotString, c.nextPosition⟩, c)
      else
        let after := c.advance.skipBlanks
        match after.rest with
        | '"' :: _ => readMember fuel after
        | '\x7d' :: _ => ([], .error ⟨.trailingComma, after.nextPosition⟩, c)
        | [] => ([], .error ⟨.endInValue, after.position⟩, c)
        | _ => ([], .error ⟨.keyNotString, after.nextPosition⟩, c)
    | '"' :: _ =>
      if first then readMember fuel c else ([], .error ⟨.expectedObjectCommaOrEnd, c.nextPosition⟩, c)
    | _ => ([], .error ⟨if first then .keyNotString else .expectedObjectCommaOrEnd, c.nextPosition⟩, c)

/-- One member of an object, from the quote of its key, and those after it. -/
def readMember (fuel : Nat) (c : Cursor) :
    List (Except SyntaxFault String × Document) × Except SyntaxFault Position × Cursor :=
  match fuel with
  | 0 => ([], .error ⟨.endInObject, c.position⟩, c)
  | fuel + 1 =>
    match readString c.rest.length (.ok []) c.advance with
    | .error e => ([], .error e, c)
    | .ok (key, c') =>
      let c' := c'.skipBlanks
      match c'.rest with
      | ':' :: _ =>
        let (value, c') := readValue fuel c'.advance
        match value.stopped? with
        | some e => ([(key, value)], .error e, c')
        | none =>
          let (members, stop, c') := readMembers fuel false c'
          ((key, value) :: members, stop, c')
      | [] => ([(key, .broken ⟨.endInObject, c'.position⟩)], .error ⟨.endInObject, c'.position⟩, c')
      | _ => ([(key, .broken ⟨.expectedColon, c'.nextPosition⟩)], .error ⟨.expectedColon, c'.nextPosition⟩, c')

end

namespace Document

/-- Reads a text: the value in it, and what is wrong after the value. No character takes more than three units of
fuel. -/
def read (text : String) : Document × Option SyntaxFault :=
  let cs := text.toList
  let (d, c) := readValue (3 * cs.length + 1) ⟨cs, 1, 0⟩
  let c := c.skipBlanks
  (d, if c.rest.isEmpty then none else some ⟨.trailingCharacters, c.nextPosition⟩)

/-! ## Faults of values that are kept -/

def faultOf? {α : Type} : Except SyntaxFault α → Option SyntaxFault
  | .ok _ => none
  | .error e => some e

/-- The deepest nesting of lists and objects. -/
def maxDepth : Nat := 127

mutual

/-- The first fault in a value inside `depth` others. -/
def fault? (depth : Nat) : Document → Option SyntaxFault
  | .scalar (.string s) _ => faultOf? s
  | .scalar (.number .outOfRange) stop => some ⟨.numberOutOfRange, stop⟩
  | .scalar _ _ => none
  | .array start items stop =>
    if maxDepth ≤ depth then some ⟨.tooDeep, start⟩ else (itemsFault? (depth + 1) items).or (faultOf? stop)
  | .object start members stop =>
    if maxDepth ≤ depth then some ⟨.tooDeep, start⟩ else (membersFault? (depth + 1) members).or (faultOf? stop)
  | .broken e => some e

def itemsFault? (depth : Nat) : List Document → Option SyntaxFault
  | [] => none
  | d :: ds => (d.fault? depth).or (itemsFault? depth ds)

def membersFault? (depth : Nat) : List (Except SyntaxFault String × Document) → Option SyntaxFault
  | [] => none
  | (k, d) :: ms => (faultOf? k).or ((d.fault? depth).or (membersFault? depth ms))

end

mutual

/-- The first fault in a value that is skipped. -/
def skippedFault? : Document → Option SyntaxFault
  | .scalar _ _ => none
  | .array _ items stop => (skippedItems? items).or (faultOf? stop)
  | .object _ members stop => (skippedMembers? members).or (faultOf? stop)
  | .broken e => some e

def skippedItems? : List Document → Option SyntaxFault
  | [] => none
  | d :: ds => d.skippedFault?.or (skippedItems? ds)

def skippedMembers? : List (Except SyntaxFault String × Document) → Option SyntaxFault
  | [] => none
  | (_, d) :: ms => d.skippedFault?.or (skippedMembers? ms)

end

/-- A value that is not of the wanted form, as a data error describes it; its own faults come first, but lists
and objects are not entered. -/
def found : Document → Except SyntaxFault (Found × Position)
  | .scalar .null stop => .ok (.null, stop)
  | .scalar (.bool b) stop => .ok (.boolean b, stop)
  | .scalar (.number .outOfRange) stop => .error ⟨.numberOutOfRange, stop⟩
  | .scalar (.number n) stop => .ok (n.found, stop)
  | .scalar (.string (.ok s)) stop => .ok (.string (Text.quoted s), stop)
  | .scalar (.string (.error e)) _ => .error e
  | .array start _ _ => .ok (.sequence, start)
  | .object start _ _ => .ok (.map, start)
  | .broken e => .error e

/-- Refuses a value that is not of the wanted form. -/
def refuse {α : Type} (d : Document) (expected : String) : Except ReadError α :=
  match d.found with
  | .ok (found, place) => .error (.notWanted (.invalidType found expected) (some place))
  | .error e => .error (.notJson e.error e.place)

end Document

/-- Lets a fault decide, if there is one. -/
def checkFault (f : Option SyntaxFault) : Except ReadError Unit :=
  match f with
  | none => .ok ()
  | some e => .error (.notJson e.error e.place)

end Interleave.Json
