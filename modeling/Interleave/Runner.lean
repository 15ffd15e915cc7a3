import Interleave.Statement

/-!
# Running the tests of a class

A runner takes a class without problems. It runs the ordinary tests and then the concurrent ones, each group in
the order of registration, and reports on each of them.
-/

namespace Interleave

open Text Session

/-- What running one method produced. -/
structure TestReport where
  method : Descriptor
  kind : MethodKind
  outcome : Invoked

namespace TestReport

def passed (r : TestReport) : Bool := r.outcome.isOk

/-- What is logged about a test that ran. -/
def record (r : TestReport) : Record :=
  let about (level : Level) (name : String) (more : List (String × String)) : Record :=
    { level, name, fields := [("method", r.method.text), ("kind", r.kind.text)] ++ more }
  match r.outcome with
  | .ok () => about .info "test passed" []
  | .error (.testFailed f) => about .info "test failed" [("failure", f.text)]
  | .error e => about .warn "test errored" [("error", e.text)]

end TestReport

/-- The reports of a run, in order. -/
structure RunSummary where
  reports : List TestReport := []

namespace RunSummary

def failures (s : RunSummary) : List TestReport := s.reports.filter fun r => !r.passed

def isSuccess (s : RunSummary) : Bool := s.reports.all TestReport.passed

/-- The first report on a method of the given name. -/
def report? (s : RunSummary) (name : String) : Option TestReport := s.reports.find? (·.method.name == name)

end RunSummary

/-- A class and the way to check its concurrent tests. -/
structure Runner (σ : Type) where
  target : TestClass σ
  invocation : Invocation

namespace Runner

variable {σ : Type}

/-- A runner for a class that has no problems. -/
def ofClass (c : TestClass σ) (i : Invocation) : Except ConfigurationError (Runner σ) :=
  if c.problems.isEmpty then .ok ⟨c, i⟩ else .error (.invalidClass c.name c.problems)

def concurrentTests (r : Runner σ) : List (TestMethod σ) := r.target.methodsOf .concurrent

/-- All tests, in the order in which they run. -/
def tests (r : Runner σ) : List (TestMethod σ) := r.target.methodsOf .test ++ r.concurrentTests

/-- The statement of a concurrent test, between all befores and all afters of the class. -/
def concurrentStatement (r : Runner σ) (m : TestMethod σ) : ConcurrentStatement σ where
  target := r.target
  invocation := r.invocation
  test := m.descriptor
  befores := (r.target.methodsOf .before).map TestMethod.descriptor
  afters := (r.target.methodsOf .after).map TestMethod.descriptor
  expected := m.expected

/-- The statement of an ordinary test, between all befores and all afters of the class. -/
def directStatement (r : Runner σ) (m : TestMethod σ) : DirectStatement σ :=
  .ofTest r.target.fixture m (r.target.methodsOf .before) (r.target.methodsOf .after)

/-- Runs one test the way its kind asks for. -/
def evaluate (r : Runner σ) (m : TestMethod σ) : Action Invoked :=
  if m.kind = .concurrent then (r.concurrentStatement m).evaluate else (r.directStatement m).evaluate

/-- Runs one test and logs the report on it. -/
def runTest (r : Runner σ) (m : TestMethod σ) : Action TestReport := do
  let report : TestReport := ⟨m.descriptor, m.kind, ← r.evaluate m⟩
  record report.record
  return report

/-- Runs all tests. -/
def run (r : Runner σ) : Action RunSummary := do
  return ⟨← r.tests.mapM r.runTest⟩

def shown (r : Runner σ) (s : Session) : String :=
  recordedOpen "ConcurrentRunner" [("class", r.target.shown), ("invocation", r.invocation.shown s)]

end Runner

end Interleave
