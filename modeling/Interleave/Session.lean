import Interleave.Failure.Expectation

/-!
# The process that tests run in

- `Session`: everything that outlives a single run: what ran so far, what was logged, the expectations that
  were remembered, the identities given to failures, what is captured with them, and what the explorer is doing;
- `Action`: a computation in a session that may panic. A panic ends the computation, not the session: what it
  changed stays changed (`catching`).
-/

namespace Interleave

/-! ## Records -/

inductive Level
  | debug
  | info
  | warn
  | error
  deriving DecidableEq, Repr

def Level.text : Level → String
  | debug => "DEBUG"
  | info => "INFO"
  | warn => "WARN"
  | error => "ERROR"

/-- A log record: an event, or the start of a span that covers the events after it. -/
structure Record where
  span : Bool := false
  level : Level
  name : String
  fields : List (String × String) := []
  deriving DecidableEq, Repr

/-- Something a lifecycle did: it made a fixture, or it started the body of a method. -/
inductive Trace
  | built (className : String)
  | ran (method : String)
  deriving DecidableEq, Repr

/-! ## Panics -/

/-- What a panic carries: a text, or something that is not one. It can be dropped without another panic; what happens
if it cannot is looked at for workers only (`WorkerEnding.bursts`). -/
inductive PanicPayload
  | text (message : String)
  | other
  deriving DecidableEq, Repr

def PanicPayload.message : PanicPayload → String
  | text m => m
  | other => "Box<dyn Any>"

/-- Where a panic starts: in the code of a test, in the scheduler that interleaves its threads, or in the code
of a test on a thread of its own, where nothing catches it. -/
inductive PanicOrigin
  | body
  | scheduler
  | thread
  deriving DecidableEq, Repr

structure Panic where
  payload : PanicPayload
  origin : PanicOrigin := .body
  deriving DecidableEq, Repr

/-! ## Sessions -/

/-- What the explorer is doing: whether an exploration is under way, whether the scheduler panicked in it, the
choices that the execution under way has still to make, and whether it lost track of a shared value. -/
structure Scheduler where
  exploring : Bool := false
  panicked : Bool := false
  choices : List Nat := []
  leaked : Bool := false
  deriving DecidableEq, Repr, Inhabited

namespace Scheduler

/-- Said when the threads of an execution wait for each other. -/
def deadlockText : String := "deadlock"

/-- Said of an execution that makes more choices than it may. -/
def branchLimitText : String :=
  "Model exceeded maximum number of branches. This is often caused by an algorithm " ++
    "requiring the processor to make progress, e.g. spin locks."

/-- Said of an execution that loses a shared value. -/
def leakText : String := "Arc leaked.\n  Index: 1"

end Scheduler

/-- A payload, as a token list, that was sent to the engine with the given number. -/
structure Delivery where
  engine : Nat
  tokens : List String
  deriving DecidableEq, Repr

/-- The state shared by everything that runs in one process. -/
structure Session where
  nextFailure : Nat := 0
  trace : List Trace := []
  log : List Record := []
  catalogue : Catalogue := {}
  scheduler : Scheduler := {}
  deliveries : List Delivery := []
  /-- the primers that have done their work -/
  primed : List Nat := []
  /-- what is captured with each failure, those to come included -/
  backtraces : Backtraces := fun _ => none
  deriving Inhabited

/-- A computation in a session. -/
abbrev Quiet := StateM Session

/-- A computation in a session that may panic. -/
abbrev Action := ExceptT Panic Quiet

/-- Runs an action and turns its panic into a value. -/
def catching {α : Type} (a : Action α) : Quiet (Except Panic α) := a.run

namespace Session

def record (r : Record) : Quiet Unit := modify fun s => { s with log := s.log ++ [r] }

def event (level : Level) (name : String) (fields : List (String × String) := []) : Quiet Unit :=
  record { level, name, fields }

def span (level : Level) (name : String) (fields : List (String × String)) : Quiet Unit :=
  record { span := true, level, name, fields }

def mark (t : Trace) : Quiet Unit := modify fun s => { s with trace := s.trace ++ [t] }

/-- Raises a failure: it gets an identity that none had before. -/
def raiseDraft (d : Draft) : Quiet Failure :=
  modifyGet fun s => (⟨s.nextFailure, d.typeName, d.fault⟩, { s with nextFailure := s.nextFailure + 1 })

/-- Raises a fault. -/
def raise (fault : Fault) : Quiet Failure := raiseDraft (.ofFault fault)

/-- Raises the failure that stands for a panic. -/
def raisePanic (p : PanicPayload) : Quiet Failure := raise (.panicked p.message)

def remember (e : Expectation) : Quiet Unit := modify fun s => { s with catalogue := s.catalogue.remember e }

/-- Takes the next choice of the execution under way, the first alternative if none is left. -/
def nextChoice : Quiet Nat :=
  modifyGet fun s => (s.scheduler.choices.headD 0,
    { s with scheduler := { s.scheduler with choices := s.scheduler.choices.tail } })

end Session

end Interleave
