import Interleave.Bounds.Load
import Interleave.Engine.Explorer
import Interleave.Event.Stream

/-!
# The checked side of a child process

A program that is run by a child engine explores the test itself and writes each observation as an event.

- `Sink`: an output that may stop a write anywhere and may refuse to be flushed;
- `EventWriter`: writes events up to the first write that fails, and keeps that fault;
- `serve`: explores and writes; an error of the explorer comes first, then one of the output;
- `payloadTokens`: the payload among the arguments of a program, from the entry point on.
-/

namespace Interleave

open Text Session

/-! ## Outputs -/

/-- What stops a write: a number of bytes that are taken all the same, and then a fault. -/
structure Stop where
  taken : Nat
  fault : Fault

/-- An output. Whether it stops a write may depend on all that it was given before, and behind a write that was
stopped it may take others. -/
structure Sink where
  /-- what stops a write of the given bytes behind the writes that came before it -/
  stops : List (List UInt8) → List UInt8 → Option Stop := fun _ _ => none
  /-- the fault with which it refuses to be flushed -/
  flush : Option Fault := none
  /-- the writes so far, taken or not -/
  tried : List (List UInt8) := []
  /-- the bytes that were taken -/
  written : List UInt8 := []

namespace Sink

/-- An output that takes a limited number of bytes. -/
def limited (limit : Nat) : Sink where
  stops tried bytes :=
    let left := limit - tried.flatten.length
    if bytes.length ≤ left then none else some ⟨left, .io "disk full"⟩

/-- Writes bytes as far as they are taken. -/
def write (s : Sink) (bytes : List UInt8) : Sink × Option Fault :=
  match s.stops s.tried bytes with
  | none => ({ s with tried := s.tried ++ [bytes], written := s.written ++ bytes }, none)
  | some stop =>
    ({ s with tried := s.tried ++ [bytes], written := s.written ++ bytes.take stop.taken }, some stop.fault)

end Sink

/-- An output for events, with the fault of the first write that failed. -/
structure EventWriter where
  sink : Sink
  fault : Option Fault := none

namespace EventWriter

/-- Writes an event, unless a write has failed before. -/
def write (w : EventWriter) (e : Event) : EventWriter :=
  if w.fault.isSome then w
  else
    let (sink, fault) := w.sink.write e.bytes
    { sink, fault }

/-- Writes an observation as an event, and logs that it did. -/
def observe (w : EventWriter) (o : Observation) : Quiet EventWriter := do
  let e := Event.ofObservation (← get).backtraces o
  let w' := w.write e
  if w'.fault.isNone then event .debug "wire event written" [("event", e.shown)]
  return w'

end EventWriter

/-! ## Serving -/

variable {σ : Type}

/-- Explores the test that the tokens ask for, under the scheduling of any scheduler, and writes what is observed. -/
def serveUnder (x : Explorer σ) (search : Option (Lifecycle σ) → Scheduling) (tokens : List String) (sink : Sink) :
    Quiet (Sink × Except EngineError Unit) := do
  let answer ← x.answerUnder search ⟨tokens⟩
  let w ← answer.observations.foldlM EventWriter.observe { sink }
  let result : Except EngineError Unit :=
    match answer.ending with
    | .failed e => .error e
    | _ =>
      match w.fault.or w.sink.flush with
      | some fault => .error (.io fault)
      | none => .ok ()
  return (w.sink, result)

/-- Explores the test that the tokens ask for and writes what is observed. -/
def serve (x : Explorer σ) (tokens : List String) (sink : Sink) : Quiet (Sink × Except EngineError Unit) :=
  serveUnder x x.bounds.search tokens sink

/-- The arguments of a program, its name first, from the entry point on. -/
def payloadTokens (arguments : List String) : List String := arguments.dropWhile (· != entryPoint)

/-- The status of a program that panicked. -/
def panicStatus : Nat := 101

/-- What a program that serves a registry writes and ends with, given its arguments and its bounds, which may
have been impossible to load. -/
def serveProgram (registry : Registry σ) (bounds : Except LoadError Bounds) (arguments : List String) :
    Quiet (List UInt8 × Nat) := do
  match bounds with
  | .error (.badCut _) => return ([], panicStatus)
  | .error _ => return ([], 1)
  | .ok bounds =>
    let (sink, result) ← serve ⟨registry, bounds⟩ (payloadTokens arguments) {}
    return (sink.written, if result.isOk then 0 else 1)

end Interleave
