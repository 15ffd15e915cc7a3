import Interleave.Script
import Interleave.Worker

/-!
# Scripts of workers

The body of a worker may be a script in which it can also burst, or wait for a gate that others open.

- `WorkerStep.ending`: how a script ends once the gate is open;
- `WorkerStep.waits`: whether it gets as far as the gate.
-/

namespace Interleave

/-- One step of a worker's script. -/
inductive WorkerStep
  | step (s : ScriptStep)
  /-- panics with a value that panics in turn when it is dropped -/
  | burst (text : String)
  /-- waits for the gate -/
  | gate

namespace WorkerStep

/-- How a script ends that starts with the given number. -/
def endingFrom (n : Int) : List WorkerStep → WorkerEnding
  | [] => .ends .passes
  | step s :: rest =>
    let p := (Body.ofScript [s]).run 0 n
    if p.passes then endingFrom p.fixture rest else .ends p.ending
  | burst text :: _ => .bursts text
  | gate :: rest => endingFrom n rest

/-- How a script ends. -/
def ending (script : List WorkerStep) : Quiet WorkerEnding := pure (endingFrom 0 script)

/-- Whether a script waits for the gate, starting with the given number. -/
def waitsFrom (n : Int) : List WorkerStep → Bool
  | [] => false
  | step s :: rest =>
    let p := (Body.ofScript [s]).run 0 n
    p.passes && waitsFrom p.fixture rest
  | burst _ :: _ => false
  | gate :: _ => true

/-- Whether a script waits for the gate. -/
def waits (script : List WorkerStep) : Bool := waitsFrom 0 script

end WorkerStep

end Interleave
