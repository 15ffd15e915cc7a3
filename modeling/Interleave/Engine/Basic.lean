import Interleave.Verdict
import Interleave.Payload.Basic

/-!
# Checking engines

An engine gets a payload, reports what it observes, and ends. Its answer is a list of observations with an
ending, so that whoever listens can be given them one by one (`Engine.run`). What was sent to an engine before
is known to the session.
-/

namespace Interleave

/-- How an engine ends. -/
inductive EngineEnd
  | done
  | failed (e : EngineError)
  | panicked (p : PanicPayload)

/-- What an engine does with a payload. -/
structure Answer where
  observations : List Observation := []
  /-- logged behind the last observation -/
  closing : List Record := []
  ending : EngineEnd := .done

/-- The answer of an engine that failed before it observed anything. -/
def Answer.failed (e : EngineError) : Answer := { ending := .failed e }

/-- An engine: it answers a payload, knowing the ones before it. -/
structure Engine where
  id : Nat
  answer : List Payload → Payload → Quiet Answer

namespace Engine

/-- The payloads that an engine has got so far. -/
def received (e : Engine) (s : Session) : List Payload :=
  (s.deliveries.filter (·.engine == e.id)).map fun d => ⟨d.tokens⟩

/-- Sends a payload to an engine and lets an observer follow the answer. -/
def run {ω : Type} (e : Engine) (observe : ω → Observation → Quiet ω) (start : ω) (p : Payload) :
    Quiet (ω × EngineEnd) := do
  let earlier := e.received (← get)
  modify fun s => { s with deliveries := s.deliveries ++ [⟨e.id, p.tokens⟩] }
  let answer ← e.answer earlier p
  let seen ← answer.observations.foldlM observe start
  answer.closing.forM Session.record
  return (seen, answer.ending)

end Engine

end Interleave
