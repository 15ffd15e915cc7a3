import Interleave.Verdict
import Interleave.Json.Text

/-!
# Events

A checked process reports its observations as events, one JSON object a line.

- `Event.ofObservation` and `Event.observation` go between the two. A failure crosses as its type name, its message and
  the backtrace that was captured with it, and comes back as a remote failure that reports them.
- `Event.text` is the object without its line end.
-/

namespace Interleave

open Session

/-- One report of a checked process. -/
inductive Event
  | completed
  | exception (typeName message : String) (backtrace : Option String)
  | violation (description : String)
  deriving DecidableEq, Repr

namespace Event

/-- The event of a failure, where backtraces are off if none are given. What crosses is what the failure says of itself
and the backtrace that was captured with it, not what it was made from. -/
def ofFailure (f : Failure) (captured : Backtraces := fun _ => none) : Event :=
  exception f.typeName f.message (f.backtrace? captured)

def ofObservation (captured : Backtraces) : Observation → Event
  | .completed => completed
  | .thrown f => ofFailure f captured
  | .violated d => violation d

/-- The observation an event stands for where it is read. -/
def observation : Event → Quiet Observation
  | completed => pure .completed
  | exception t m b => .thrown <$> raiseDraft (.remote t m b)
  | violation d => pure (.violated d)

/-- Replays an event where it is read, on whoever observes there. -/
def forward {ω : Type} (observe : ω → Observation → Quiet ω) (seen : ω) (e : Event) : Quiet ω := do
  observe seen (← e.observation)

/-- The word that says what an event is. -/
def tag : Event → String
  | completed => "completed"
  | exception _ _ _ => "exception"
  | violation _ => "violation"

/-- The fields of an event, in order. -/
def fields : Event → List (String × String)
  | completed => []
  | exception t m b =>
    [("type_name", t), ("message", m)] ++ match b with
      | none => []
      | some b => [("backtrace", b)]
  | violation d => [("description", d)]

/-- A member of an object. -/
def memberText (key value : String) : List Char :=
  Json.stringText key.toList ++ ':' :: Json.stringText value.toList

/-- An event as a JSON object. -/
def chars (e : Event) : List Char :=
  let members := (("event", e.tag) :: e.fields).map fun (k, v) => memberText k v
  '\x7b' :: (List.intercalate [','] members ++ ['\x7d'])

/-- An event as a JSON object. -/
def text (e : Event) : String := String.ofList e.chars

/-- An event with its fields in quoted form. -/
def shown : Event → String
  | completed => "Completed"
  | exception t m b => Text.recorded "Exception" [("type_name", Text.quoted t), ("message", Text.quoted m),
      ("backtrace", Text.optional (b.map Text.quoted))]
  | violation d => Text.recorded "Violation" [("description", Text.quoted d)]

end Event

end Interleave
