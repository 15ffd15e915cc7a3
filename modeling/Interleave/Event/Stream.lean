import Interleave.Event.Reader
import Interleave.Text.Lines

/-!
# Streams of events

A checked process writes one event a line. Blank lines are skipped; the first line that is no text or no event
ends the reading, and what was read before it counts.
-/

namespace Interleave

open Text

/-- How the reading of a stream ends. -/
inductive StreamEnd
  | complete
  | notText
  | malformed (line : String) (cause : Json.ReadError)
  deriving DecidableEq, Repr

def StreamEnd.error? : StreamEnd → Option EngineError
  | complete => none
  | notText => some (.io (.io "stream did not contain valid UTF-8"))
  | malformed line cause => some (.malformedEvent line cause)

namespace Event

/-- The events on some lines, and why there are not more. -/
def ofLines : List (List UInt8) → List Event × StreamEnd
  | [] => ([], .complete)
  | bytes :: rest =>
    match decode bytes with
    | none => ([], .notText)
    | some line =>
      let line := trim line.toList
      if line.isEmpty then ofLines rest
      else match read (String.ofList line) with
        | .error e => ([], .malformed (String.ofList line) e)
        | .ok e =>
          let (es, ending) := ofLines rest
          (e :: es, ending)

/-- The events of a byte stream, and why there are not more. -/
def ofBytes (bytes : List UInt8) : List Event × StreamEnd := ofLines (lines bytes)

/-- The bytes that are written for an event. -/
def bytes (e : Event) : List UInt8 := encode (e.text ++ "\n")

end Event

end Interleave
