import Interleave.TestClass.Basic

/-!
# One run of a test

A lifecycle runs befores, a test and afters on one fixture.

- The befores run up to the first that fails; the test runs if none did; the afters run in any case.
- The outcome is that of the failing before, else that of the test held against its expectation
  (`meetExpectation`), else that of the first failing after.
- A panic is a failure (`TestMethod.invoke`), unless an exploration is under way and the panic comes from another
  thread, or from the scheduler: then it ends the run. Neither dropping what a panic carries nor making the
  fixture panics.
-/

namespace Interleave

open Text Session

/-- What a method or a lifecycle ends with. -/
abbrev Outcome := Except Failure Unit

namespace Outcome

def failure? : Outcome → Option Failure
  | .ok () => none
  | .error f => some f

/-- The first failure of two outcomes. -/
def orElse : Outcome → Outcome → Outcome
  | .ok (), o => o
  | .error f, _ => .error f

end Outcome

variable {σ : Type}

/-! ## Methods -/

/-- What becomes of a panic in a body: a failure, or a panic of the whole run. -/
def catchPanic (p : Panic) : Action Failure := do
  let scheduler := (← get).scheduler
  if p.origin = .scheduler ∧ scheduler.exploring then
    modify fun s => { s with scheduler := { s.scheduler with panicked := true } }
  let scheduler := (← get).scheduler
  if scheduler.exploring ∧ (p.origin = .thread ∨ scheduler.panicked) then throw p
  else raisePanic p.payload

/-- Turns the ending of a body into an outcome. -/
def Ending.outcome : Ending → Action Outcome
  | .passes => pure (.ok ())
  | .raises f => pure (.error f)
  | .fails d => .error <$> (raiseDraft d : Quiet Failure)
  | .panics p => .error <$> catchPanic p

/-- Runs a method on a fixture. Only an exploration keeps track of the values that threads share. -/
def TestMethod.invoke (m : TestMethod σ) (fixture : σ) : Action (σ × Outcome) := do
  mark (.ran m.name)
  let passage := m.body.run (← nextChoice) fixture
  if passage.leaks then
    modify fun s => { s with scheduler := { s.scheduler with leaked := s.scheduler.exploring } }
  return (passage.fixture, ← passage.ending.outcome)

/-! ## Expectations -/

/-- Holds the outcome of a test against the expectation of it. -/
def meetExpectation (expected : Option Expectation) (o : Outcome) : Quiet Outcome :=
  match expected, o with
  | none, o => pure o
  | some e, .ok () => .error <$> raise (.missing e.typeName)
  | some e, .error f => if e.meets f then pure (.ok ()) else .error <$> raise (.unexpected e.typeName f)

/-! ## Lifecycles -/

/-- A test with the methods to run around it. -/
structure Lifecycle (σ : Type) where
  fixture : Fixture σ
  befores : List (TestMethod σ) := []
  test : TestMethod σ
  afters : List (TestMethod σ) := []
  expected : Option Expectation := none

/-- Runs methods up to the first that fails. -/
def invokeUntilFailure : List (TestMethod σ) → σ → Action (σ × Outcome)
  | [], s => pure (s, .ok ())
  | m :: ms, s => do
    match ← m.invoke s with
    | (s, .ok ()) => invokeUntilFailure ms s
    | (s, .error f) => pure (s, .error f)

/-- Runs methods, whether they fail or not; the outcome is the first failure, starting from a given one. -/
def invokeAll : List (TestMethod σ) → σ → Outcome → Action (σ × Outcome)
  | [], s, o => pure (s, o)
  | m :: ms, s, o => do
    let (s, o') ← m.invoke s
    invokeAll ms s (o.orElse o')

namespace Lifecycle

/-- Runs the befores, and the test if they pass. -/
def runToTest (l : Lifecycle σ) (s : σ) : Action (σ × Outcome) := do
  match ← invokeUntilFailure l.befores s with
  | (s, .error f) => pure (s, .error f)
  | (s, .ok ()) =>
    let (s, o) ← l.test.invoke s
    return (s, ← (meetExpectation l.expected o : Quiet Outcome))

/-- Runs the lifecycle on a given fixture. -/
def runWith (l : Lifecycle σ) (s : σ) : Action (σ × Outcome) := do
  let (s, o) ← l.runToTest s
  invokeAll l.afters s o

/-- Runs the lifecycle on a new fixture. -/
def runOnce (l : Lifecycle σ) : Action Outcome := do
  mark (.built l.fixture.name)
  return (← l.runWith l.fixture.fresh).2

def shown (l : Lifecycle σ) : String :=
  recorded "LifecyclePlan" [("befores", bracketed (l.befores.map TestMethod.shown)), ("test", l.test.shown),
    ("afters", bracketed (l.afters.map TestMethod.shown)),
    ("expected", optional (l.expected.map Expectation.shown))]

/-! ## Executions

A lifecycle whose bodies have threads can run in many ways. A way is a list of choices, one for each method
that runs. -/

/-- The ways through methods that run whether they fail or not. -/
def waysAll : List (TestMethod σ) → σ → List (List Nat)
  | [], _ => [[]]
  | m :: ms, s =>
    (m.body.passages s).zipIdx.flatMap fun (p, i) =>
      if p.returns then (waysAll ms p.fixture).map (i :: ·) else [[i]]

/-- The ways through methods of which a failing one ends the row; `rest` runs after all, `last` in any case. -/
def waysUntilFailure (rest last : List (TestMethod σ)) : List (TestMethod σ) → σ → List (List Nat)
  | [], s => waysAll (rest ++ last) s
  | m :: ms, s =>
    (m.body.passages s).zipIdx.flatMap fun (p, i) =>
      if p.passes then (waysUntilFailure rest last ms p.fixture).map (i :: ·)
      else if p.returns then (waysAll last p.fixture).map (i :: ·)
      else [[i]]

/-- The ways in which the lifecycle can run on a new fixture. -/
def ways (l : Lifecycle σ) : List (List Nat) :=
  waysUntilFailure [l.test] l.afters l.befores l.fixture.fresh

end Lifecycle

end Interleave
