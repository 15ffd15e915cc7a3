import Interleave.Lifecycle

/-!
# Observations and verdicts

An engine reports observations: that a run completed, that a failure was thrown, or that a property was
violated. A `Collector` reduces them to a `Verdict`.

- The first failure and the first violation are kept, and everything is counted (`Collector.add`).
- No observation at all is no verdict.
- A verdict passes if nothing went wrong; otherwise its cause is the failure, or else the violation
  (`Verdict.failure?`, `Verdict.check`).
-/

namespace Interleave

open Text Session

inductive Observation
  | completed
  | thrown (f : Failure)
  | violated (description : String)

namespace Observation

/-- What is logged when a collector sees an observation. -/
def record : Observation → Record
  | completed => { level := .debug, name := "exploration completed" }
  | thrown f =>
    { level := .debug, name := "exploration captured a test failure", fields := [("failure", f.text)] }
  | violated d =>
    { level := .debug, name := "exploration found a property violation", fields := [("description", d)] }

def failure? : Observation → Option Failure
  | thrown f => some f
  | _ => none

def violation? : Observation → Option String
  | violated d => some d
  | _ => none

end Observation

/-! ## Verdicts -/

/-- What a check found out. -/
structure Verdict where
  passed : Bool
  exception : Option Failure
  violation : Option String

namespace Verdict

/-- The failure of a verdict, or one that stands for its violation. -/
def cause (v : Verdict) (noDescription : String) : Quiet Failure :=
  match v.exception with
  | some f => pure f
  | none => raise (.unattributed (v.violation.getD noDescription))

/-- The failure of a verdict, if it did not pass. -/
def failure? (v : Verdict) : Quiet (Option Failure) :=
  if v.passed then pure none else some <$> v.cause "no description reported"

/-- The verdict as the outcome of an invocation. -/
def check (v : Verdict) : Quiet (Except InvocationError Unit) :=
  if v.passed then pure (.ok ())
  else do return .error (.testFailed (← v.cause "engine reported a failure without a cause"))

def shown (v : Verdict) : String :=
  recorded "InvocationVerdict" [("passed", if v.passed then "true" else "false"),
    ("exception", optional (v.exception.map Failure.shown)), ("violation", optional (v.violation.map quoted))]

end Verdict

/-! ## Collectors -/

/-- What has been observed so far. -/
structure Collector where
  observations : Nat := 0
  exception : Option Failure := none
  violation : Option String := none

namespace Collector

/-- Takes in one observation. -/
def add (c : Collector) (o : Observation) : Collector where
  observations := c.observations + 1
  exception := c.exception.or o.failure?
  violation := c.violation.or o.violation?

/-- The collector after a list of observations. -/
def ofList (os : List Observation) : Collector := os.foldl add {}

/-- The verdict, if anything was observed. -/
def finish (c : Collector) : Except EngineError Verdict :=
  if c.observations = 0 then .error .noObservations
  else .ok ⟨c.exception.isNone && c.violation.isNone, c.exception, c.violation⟩

/-- Takes in one observation and logs it. -/
def observe (c : Collector) (o : Observation) : Quiet Collector := do
  record o.record
  return c.add o

def shown (c : Collector) : String :=
  recorded "ResultCollector" [("observations", toString c.observations),
    ("exception", optional (c.exception.map Failure.shown)), ("violation", optional (c.violation.map quoted))]

end Collector

end Interleave
