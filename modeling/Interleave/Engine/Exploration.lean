import Interleave.Lifecycle

/-!
# Explorations

An exploration runs a lifecycle again and again, each time on a new fixture, in the executions that a scheduler comes
up with, and then draws a conclusion from four things that it knows (`Evidence`).

- A run that ends with a failure leaves it behind (`Findings`) and panics, so that the scheduler stops.
- The first panic that leaves an execution ends the exploration (`Execution.exploreAll`). It may be one of the
  scheduler, at the end of the execution or while the execution unwinds.
- A failure that was left behind is thrown as it is; else a panic of the scheduler is a violation, and any other panic
  a failure (`Evidence.exploration`).
-/

namespace Interleave

open Session

/-! ## What an exploration found -/

inductive Exploration
  | completed
  | failed (f : Failure)
  | violated (description : String)
  | aborted (reason : String)

/-- What is known when an exploration has ended: the panic that ended it, the failure that a lifecycle ended
with, whether any execution began, and whether the scheduler panicked. -/
structure Evidence where
  unwound : Option PanicPayload := none
  captured : Option Failure := none
  started : Bool := true
  schedulerPanicked : Bool := false

/-- Draws the conclusion: a captured failure decides over everything else. -/
def Evidence.exploration (e : Evidence) : Quiet Exploration :=
  match e.captured, e.unwound with
  | some f, _ => pure (.failed f)
  | none, none => pure .completed
  | none, some p =>
    if !e.started then pure (.aborted p.message)
    else if e.schedulerPanicked then pure (.violated p.message)
    else .failed <$> raisePanic p

/-! ## Executions -/

/-- What executions have left behind: whether any of them began, and the first failure that a run ended with. -/
structure Findings where
  started : Bool := false
  captured : Option Failure := none

/-- Runs a lifecycle. If it ends with a failure, that is kept, unless there is one, and there is a panic that says
nothing. -/
def Findings.call (found : Findings) (run : Action Outcome) : Quiet (Option Panic × Findings) := do
  let found := { found with started := true }
  match ← catching run with
  | .error p => return (some p, found)
  | .ok (.error f) => return (some ⟨.other, .body⟩, { found with captured := found.captured.or (some f) })
  | .ok (.ok ()) => return (none, found)

/-- What the scheduler does in one execution: the way it goes, the panic with which it may end the execution of a run
that passed, and the panic of its own in which the panic of a run may end. -/
structure Execution where
  way : List Nat := []
  closing : Scheduler → Option Panic := fun _ => none
  unwinding : Option PanicPayload := none

/-- A panic of the scheduler is noted. -/
def notePanic (p : Panic) : Quiet Unit :=
  if p.origin = .scheduler then modify fun s => { s with scheduler := { s.scheduler with panicked := true } }
  else pure ()

namespace Execution

/-- The panic that leaves the execution, given the panic of the run. -/
def close (e : Execution) (panic : Option Panic) : Quiet (Option Panic) := do
  let scheduler := (← get).scheduler
  let closing := match panic with
    | none => e.closing scheduler
    | some _ => e.unwinding.map fun payload => ⟨payload, .scheduler⟩
  match closing with
  | none => return panic
  | some p =>
    notePanic p
    return some p

/-- One execution: the panic that leaves it, and what is left behind. -/
def explore (e : Execution) (run : Action Outcome) (found : Findings) : Quiet (Option Panic × Findings) := do
  modify fun s => { s with scheduler := { s.scheduler with choices := e.way, leaked := false } }
  let (panic, found) ← found.call run
  return (← e.close panic, found)

/-- Goes through executions up to the first that a panic leaves. -/
def exploreAll (run : Action Outcome) : List Execution → Findings → Quiet (Option Panic × Findings)
  | [], found => return (none, found)
  | e :: es, found => do
    match ← e.explore run found with
    | (none, found) => exploreAll run es found
    | (some p, found) => return (some p, found)

end Execution

/-! ## Schedulings -/

/-- What a scheduler makes of an exploration: it panics before any execution, or goes through executions. -/
inductive Scheduling
  | refuses (p : Panic)
  | runs (executions : List Execution)

namespace Scheduling

/-- The panic that leaves the scheduler, and what is left behind. -/
def check (run : Action Outcome) : Scheduling → Quiet (Option Panic × Findings)
  | refuses p => do
    notePanic p
    return (some p, {})
  | runs executions => Execution.exploreAll run executions {}

/-- Explores a lifecycle. Nothing is left of what the explorer did before, and of what it does. -/
def explore (scheduling : Scheduling) (run : Action Outcome) : Quiet Exploration := do
  modify fun s => { s with scheduler := { exploring := true } }
  let (panic, found) ← scheduling.check run
  let panicked := (← get).scheduler.panicked
  modify fun s => { s with scheduler := {} }
  ({ unwound := panic.map Panic.payload
     captured := found.captured
     started := found.started
     schedulerPanicked := panicked } : Evidence).exploration

end Scheduling

end Interleave
