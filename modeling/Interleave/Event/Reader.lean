import Interleave.Event.Basic
import Interleave.Json.Document

/-!
# Reading events

An event is read from an object that has a member `event` with the tag, or from a list that starts with the
tag; the fields of the event are the other members, by name, or the other items, in order.

- The tag is looked at as soon as it is read, the fields when the whole value has been read.
- Members that the event does not have are ignored; one that it has may not come twice.
- The backtrace may be missing, everything else must be there.
-/

namespace Interleave

open Json

namespace Event

/-- The kinds of events. -/
inductive Tag
  | completed
  | exception
  | violation
  deriving DecidableEq, Repr

namespace Tag

def names : List String := ["completed", "exception", "violation"]

def ofName? (s : String) : Option Tag :=
  if s = "completed" then some completed
  else if s = "exception" then some exception
  else if s = "violation" then some violation
  else none

/-- Reads a tag. -/
def ofDocument (d : Document) : Except ReadError Tag :=
  match d with
  | .scalar (.string (.ok s)) stop =>
    match ofName? s with
    | some t => .ok t
    | none => .error (.notWanted (.unknownVariant s names) (some stop))
  | d => d.refuse "variant identifier"

end Tag

/-! ## Fields -/

/-- A fault of a field: its place is not known any more when it is looked at. -/
def fieldFault {α : Type} (e : DataError) : Except ReadError α := .error (.notWanted e none)

/-- Reads a field. -/
def stringOf (d : Document) : Except ReadError String :=
  match d with
  | .scalar (.string (.ok s)) _ => .ok s
  | d =>
    match d.found with
    | .ok (found, _) => fieldFault (.invalidType found "a string")
    | .error e => .error (.notJson e.error e.place)

/-- Reads a field that may be null. -/
def optionalStringOf (d : Document) : Except ReadError (Option String) :=
  match d with
  | .scalar .null _ => .ok none
  | d => some <$> stringOf d

/-- Fields of an exception that have been read. -/
structure ExceptionFields where
  typeName : Option String := none
  message : Option String := none
  backtrace : Option (Option String) := none

/-- Reads the members of an exception. -/
def ExceptionFields.ofMembers (f : ExceptionFields) :
    List (String × Document) → Except ReadError ExceptionFields
  | [] => .ok f
  | (key, d) :: rest => do
    if key = "type_name" then
      if f.typeName.isSome then fieldFault (.duplicateField key)
      else ofMembers { f with typeName := ← stringOf d } rest
    else if key = "message" then
      if f.message.isSome then fieldFault (.duplicateField key)
      else ofMembers { f with message := ← stringOf d } rest
    else if key = "backtrace" then
      if f.backtrace.isSome then fieldFault (.duplicateField key)
      else ofMembers { f with backtrace := ← optionalStringOf d } rest
    else ofMembers f rest

/-- The description among the members of a violation. -/
def descriptionOfMembers (description : Option String) :
    List (String × Document) → Except ReadError (Option String)
  | [] => .ok description
  | (key, d) :: rest => do
    if key = "description" then
      if description.isSome then fieldFault (.duplicateField key)
      else descriptionOfMembers (← stringOf d) rest
    else descriptionOfMembers description rest

/-- The event with the given members. -/
def ofMembers (tag : Tag) (members : List (String × Document)) : Except ReadError Event := do
  match tag with
  | .completed => return completed
  | .exception =>
    let f ← ExceptionFields.ofMembers {} members
    match f.typeName, f.message with
    | none, _ => fieldFault (.missingField "type_name")
    | _, none => fieldFault (.missingField "message")
    | some t, some m => return exception t m (f.backtrace.getD none)
  | .violation =>
    match ← descriptionOfMembers none members with
    | none => fieldFault (.missingField "description")
    | some d => return violation d

/-- A list must not go on after the last field. -/
def noMore (wanted : String) (count : Nat) (rest : List Document) : Except ReadError Unit :=
  if rest.isEmpty then .ok () else fieldFault (.invalidLength (count + rest.length) (wanted ++ " in sequence"))

/-- The event with the given items after its tag. -/
def ofItems (tag : Tag) (items : List Document) : Except ReadError Event := do
  match tag with
  | .completed =>
    noMore "0 elements" 0 items
    return completed
  | .exception =>
    let wanted := "struct variant WireEvent::Exception with 3 elements"
    match items with
    | [] => fieldFault (.invalidLength 0 wanted)
    | t :: items =>
      let t ← stringOf t
      match items with
      | [] => fieldFault (.invalidLength 1 wanted)
      | m :: items =>
        let m ← stringOf m
        match items with
        | [] => return exception t m none
        | b :: items =>
          let b ← optionalStringOf b
          noMore "3 elements" 3 items
          return exception t m b
  | .violation =>
    match items with
    | [] => fieldFault (.invalidLength 0 "struct variant WireEvent::Violation with 1 element")
    | d :: items =>
      let d ← stringOf d
      noMore "1 element" 1 items
      return violation d

/-! ## Values -/

/-- Reads the members of an object up to its end: the tag, if it is there, and the others. -/
def splitTag (stop : Except SyntaxFault Position) (tag : Option Tag) (others : List (String × Document)) :
    List (Except SyntaxFault String × Document) → Except ReadError (Tag × List (String × Document))
  | [] =>
    match stop, tag with
    | .error e, _ => .error (.notJson e.error e.place)
    | .ok place, none => .error (.notWanted (.missingField "event") (some place))
    | .ok _, some t => .ok (t, others)
  | (.error e, _) :: _ => .error (.notJson e.error e.place)
  | (.ok key, d) :: rest => do
    if key = "event" then
      if tag.isSome then
        .error (.notWanted (.duplicateField "event") (match stop with
          | .ok place => some place
          | .error e => some e.place))
      else splitTag stop (← Tag.ofDocument d) others rest
    else
      checkFault (d.fault? 1)
      splitTag stop tag (others ++ [(key, d)]) rest

/-- Reads an event from a value. -/
def ofDocument (d : Document) : Except ReadError Event := do
  match d with
  | .array start items stop =>
    match items with
    | [] =>
      checkFault (Document.faultOf? stop)
      .error (.notWanted (.missingField "event") (some start))
    | t :: items =>
      let t ← Tag.ofDocument t
      checkFault ((Document.itemsFault? 1 items).or (Document.faultOf? stop))
      ofItems t items
  | .object _ members stop =>
    let (t, members) ← splitTag stop none [] members
    ofMembers t members
  | d => d.refuse "internally tagged enum WireEvent"

/-- Reads an event from a line. -/
def read (line : String) : Except ReadError Event := do
  let (d, after) := Document.read line
  let e ← ofDocument d
  checkFault after
  return e

end Event

end Interleave
