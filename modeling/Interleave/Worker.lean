import Interleave.Lifecycle

/-!
# Workers

A worker runs a body once, on the spot or on a thread of its own, and keeps the failure that it ended with.

- `Worker.run`: a second run does nothing;
- `WorkerThread.step`: a thread runs the worker, sends the outcome into a channel and lets go of the channel. A panic
  that leaves the worker ends the thread before it has sent anything;
- `WorkerHandle.joinWithin`: whoever holds the handle looks whether something has come out of the channel, and keeps
  what comes first.

A panic becomes a failure. When the value that the panic carries panics itself as it is dropped, that second
panic leaves the worker. For the bodies of methods this is left out; a worker is all about the failure that it keeps.
-/

namespace Interleave

open Text Session

/-- How the body of a worker ends. -/
inductive WorkerEnding
  | ends (e : Ending)
  /-- it panics with a value that panics in turn, with this text, when it is dropped -/
  | bursts (text : String)

/-- A worker: its body until it has run, and its failure if it had one. -/
structure Worker where
  body : Option (Quiet WorkerEnding) := none
  failure : Option Failure := none

/-- The outcome of a body, or the panic that leaves the worker. -/
def WorkerEnding.outcome : WorkerEnding → Quiet (Except Panic Outcome)
  | ends .passes => pure (.ok (.ok ()))
  | ends (.raises f) => pure (.ok (.error f))
  | ends (.fails d) => do return .ok (.error (← raiseDraft d))
  | ends (.panics p) => do return .ok (.error (← raisePanic p.payload))
  | bursts text => do
    discard (raisePanic .other)
    return .error ⟨.text text, .body⟩

namespace Worker

def ofBody (b : Quiet WorkerEnding) : Worker := { body := some b }

/-- Keeps the failure of a body. -/
def settle (w : Worker) : Except Panic Outcome → Quiet (Worker × Except Panic Unit)
  | .error p => return (w, .error p)
  | .ok (.ok ()) => return (w, .ok ())
  | .ok (.error f) => do
    event .debug "worker failed" [("failure", f.text)]
    return ({ w with failure := some f }, .ok ())

/-- Runs the body, unless it has run; the panic that leaves the worker is the second part. -/
def run (w : Worker) : Quiet (Worker × Except Panic Unit) :=
  match w.body with
  | none => return (w, .ok ())
  | some body => do settle { w with body := none } (← (← body).outcome)

/-- What a worker that has run has come to. -/
def outcome (w : Worker) : Outcome := w.failure.elim (.ok ()) .error

def shown (w : Worker) : String :=
  recorded "ExplodingWorker" [("pending", if w.body.isSome then "true" else "false"),
    ("failure", optional (w.failure.map Failure.shown))]

end Worker

/-! ## Channels -/

/-- A channel into which one thread sends: what was sent and not received yet, and whether that thread is still
there. -/
structure Channel (α : Type) where
  queue : List α := []
  connected : Bool := true

/-- What comes out of a channel. -/
inductive Reception (α : Type)
  | message (a : α)
  /-- nothing so far -/
  | silence
  /-- nothing, now and ever -/
  | disconnection

namespace Channel

variable {α : Type}

def send (c : Channel α) (a : α) : Channel α := { c with queue := c.queue ++ [a] }

def disconnect (c : Channel α) : Channel α := { c with connected := false }

/-- Takes the oldest message out of the channel. -/
def receive (c : Channel α) : Reception α × Channel α :=
  match c.queue with
  | a :: queue => (.message a, { c with queue })
  | [] => (if c.connected then .silence else .disconnection, c)

end Channel

/-! ## Threads -/

/-- Does something on another thread, which has a log of its own. -/
def elsewhere {α : Type} (q : Quiet α) : Quiet α := do
  let log := (← get).log
  let a ← q
  modify fun s => { s with log }
  return a

/-- What the thread of a worker has still to do. -/
inductive WorkerThread
  /-- to run the worker -/
  | begins (w : Worker)
  /-- to send the outcome -/
  | reports (o : Outcome)
  /-- to let go of the channel -/
  | leaves
  /-- nothing, as it has returned -/
  | returned
  /-- nothing, as a panic has ended it -/
  | died

namespace WorkerThread

/-- The next thing that the thread does, to its channel among others. -/
def step : WorkerThread → Channel Outcome → Quiet (WorkerThread × Channel Outcome)
  | begins w, c => do
    match ← elsewhere w.run with
    | (_, .error _) => return (died, c.disconnect)
    | (w, .ok ()) => return (reports w.outcome, c)
  | reports o, c => return (leaves, c.send o)
  | leaves, c => return (returned, c.disconnect)
  | returned, c => return (returned, c)
  | died, c => return (died, c)

/-- As many steps as the thread can still take. -/
def remaining : WorkerThread → Nat
  | begins _ => 3
  | reports _ => 2
  | leaves => 1
  | returned | died => 0

end WorkerThread

/-! ## Handles -/

/-- A started worker: its thread, the channel from there, and the outcome once it has come. -/
structure WorkerHandle where
  name : String
  thread : WorkerThread
  channel : Channel Outcome := {}
  /-- whether the thread was waited for -/
  reaped : Bool := false
  finished : Option Outcome := none

/-- What a handle knows. -/
inductive WorkerState
  | running
  | finished
  | failed (f : Failure)

def WorkerState.ofOutcome : Outcome → WorkerState
  | .ok () => finished
  | .error f => failed f

/-- The panic of a thread name that holds a zero byte. -/
def zeroByteText (name : List UInt8) : String :=
  "thread name may not contain interior null bytes: NulError(" ++ toString (name.idxOf 0) ++ ", " ++
    bracketed (name.map fun b => toString b.toNat) ++ ")"

/-- Starts a thread that runs the worker. -/
def Worker.start (w : Worker) (name : String) : Quiet (Except Panic WorkerHandle) := do
  let bytes := name.toUTF8.toList
  if bytes.contains 0 then return .error ⟨.text (zeroByteText bytes), .body⟩
  else return .ok { name, thread := .begins w }

/-- What is said of a thread that ended without a report. -/
def lostText (name : String) : String := "worker " ++ name ++ " exited without reporting"

namespace WorkerHandle

/-- Lets the thread take some steps. -/
def advance (h : WorkerHandle) : Nat → Quiet WorkerHandle
  | 0 => pure h
  | n + 1 => do
    let (thread, channel) ← h.thread.step h.channel
    advance { h with thread, channel } n

/-- Waits for the thread to end, once. -/
def reap (h : WorkerHandle) : Quiet WorkerHandle := do
  if h.reaped then return h
  let h ← h.advance h.thread.remaining
  if let .died := h.thread then
    event .warn "worker thread panicked after reporting" [("worker", h.name)]
  return { h with reaped := true }

/-- The failure that stands for a thread that ended without a report. -/
def lost (h : WorkerHandle) : Quiet Failure := raise (.panicked (lostText h.name))

/-- Waits for an outcome. -/
def join (h : WorkerHandle) : Quiet Outcome :=
  match h.finished with
  | some o => pure o
  | none => do
    -- the last thing that the thread does to the channel is to let go of it: nothing comes behind that
    let h ← h.advance h.thread.remaining
    match h.channel.receive with
    | (.message o, channel) =>
      discard { h with channel }.reap
      return o
    | (_, _) =>
      let f ← h.lost
      discard h.reap
      return .error f

/-- Looks whether something has come out of the channel, and keeps it. -/
def look (h : WorkerHandle) : Quiet (WorkerHandle × WorkerState) :=
  match h.channel.receive with
  | (.silence, _) => return (h, .running)
  | (.message o, channel) => do
    let h ← { h with channel }.reap
    return ({ h with finished := some o }, .ofOutcome o)
  | (.disconnection, _) => do
    let f ← h.lost
    let h ← h.reap
    return ({ h with finished := some (.error f) }, .failed f)

/-- Waits for an outcome while the thread takes some steps. -/
def joinWithin (h : WorkerHandle) (steps : Nat) : Quiet (WorkerHandle × WorkerState) :=
  match h.finished with
  | some o => return (h, .ofOutcome o)
  | none => do (← h.advance steps).look

/-- Waits for a while, in which the thread gets to its end or nowhere. -/
def joinTimeout (h : WorkerHandle) (ended : Bool) : Quiet (WorkerHandle × WorkerState) :=
  h.joinWithin (if ended then h.thread.remaining else 0)

end WorkerHandle

end Interleave
