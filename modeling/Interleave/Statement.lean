import Interleave.Invocation

/-!
# Statements

A statement is one test that is ready to run: an ordinary one is its lifecycle, run once, and a concurrent one
is a request to an engine. Both end in the same kind of outcome.
-/

namespace Interleave

open Text

variable {σ : Type}

/-- A test that is run once, on the spot. -/
structure DirectStatement (σ : Type) where
  lifecycle : Lifecycle σ

namespace DirectStatement

/-- Runs a test between befores and afters and expects what the test declares. -/
def ofTest (fixture : Fixture σ) (test : TestMethod σ) (befores afters : List (TestMethod σ)) :
    DirectStatement σ :=
  ⟨{ fixture, befores, test, afters, expected := test.expected }⟩

def evaluate (s : DirectStatement σ) : Action Invoked := do
  return (← s.lifecycle.runOnce).mapError .testFailed

def shown (s : DirectStatement σ) : String := recorded "InvokeMethod" [("plan", s.lifecycle.shown)]

end DirectStatement

/-- A test that is checked by an engine. -/
structure ConcurrentStatement (σ : Type) where
  target : TestClass σ
  invocation : Invocation
  test : Descriptor
  befores : List Descriptor := []
  afters : List Descriptor := []
  expected : Option Expectation := none

namespace ConcurrentStatement

def evaluate (s : ConcurrentStatement σ) : Action Invoked :=
  s.invocation.run s.target s.test s.befores s.afters s.expected

def shown (s : ConcurrentStatement σ) : String :=
  recordedOpen "ConcurrentStatement" [("test", s.test.shown),
    ("befores", bracketed (s.befores.map Descriptor.shown)),
    ("afters", bracketed (s.afters.map Descriptor.shown)),
    ("expected", optional (s.expected.map Expectation.shown))]

end ConcurrentStatement

end Interleave
