import Interleave.Primer
import Interleave.TestClass.Resolve

/-!
# Checked invocations

An invocation sends the payload of one test to an engine and turns what the engine reports into an outcome.

- A request that does not fit the class is a configuration error, and the engine does not see it.
- An engine that failed, or that observed nothing, is an engine error.
- Everything else is the verdict on the observations. A panic of the engine goes on.
-/

namespace Interleave

open Text Session

/-- A test that failed, if that is what the error says. -/
def InvocationError.failure? : InvocationError → Option Failure
  | testFailed f => some f
  | _ => none

/-- What an invocation ends with. -/
abbrev Invoked := Except InvocationError Unit

/-- An engine with the primer that warms it up. -/
structure Invocation where
  engine : Engine
  primer : Primer

namespace Invocation

variable {σ : Type}

/-- Draws the conclusion from an engine's answer. -/
def conclude (c : Collector) : EngineEnd → Action Invoked
  | .panicked p => throw ⟨p, .body⟩
  | .failed e => return .error (.engine e)
  | .done =>
    match c.finish with
    | .error e => return .error (.engine e)
    | .ok v => (v.check : Quiet Invoked)

/-- Checks a test of a class. -/
def run (i : Invocation) (c : TestClass σ) (test : Descriptor) (befores afters : List Descriptor)
    (expected : Option Expectation) : Action Invoked := do
  span .info "checked_invocation" [("class", test.className), ("method", test.name)]
  (i.primer.prime i.engine : Quiet Unit)
  match ← (Payload.build c test befores afters expected : Quiet _) with
  | .error e => return .error (.configuration e)
  | .ok payload =>
    event .debug "launching checking engine" [("payload", payload.text)]
    let (collector, ending) ← (i.engine.run Collector.observe {} payload : Quiet _)
    conclude collector ending

def shown (i : Invocation) (s : Session) : String :=
  recordedOpen "CheckedInvocation" [("primed", if i.primer.isPrimed s then "true" else "false")]

end Invocation

end Interleave
