import Interleave.Body

/-!
# Test classes

A class is a type of fixture with the methods registered for it, in order.

- `problems`: why a class cannot be run, if it cannot; `Valid` says the same without counting;
- `method?`: methods are found by name, the first one registered under it;
- every method of a class is described under the name of the class (`TestClass.owned`).
-/

namespace Interleave

open Text

/-- A method as it is registered. -/
structure TestMethod (σ : Type) where
  descriptor : Descriptor
  kind : MethodKind
  body : Body σ
  expected : Option Expectation := none

namespace TestMethod

variable {σ : Type}

def name (m : TestMethod σ) : String := m.descriptor.name

/-- Methods with one descriptor and one role count as the same. -/
def alike (m n : TestMethod σ) : Bool := m.descriptor == n.descriptor && m.kind == n.kind

def shown (m : TestMethod σ) : String :=
  recordedOpen "TestMethod" [("descriptor", m.descriptor.shown), ("kind", m.kind.text),
    ("expected", optional (m.expected.map Expectation.shown))]

end TestMethod

/-- A type of fixture: its name, and a fixture as it is made. Making one does not panic. -/
structure Fixture (σ : Type) where
  name : String
  fresh : σ

/-- A test class. -/
structure TestClass (σ : Type) where
  fixture : Fixture σ
  methods : List (TestMethod σ) := []
  /-- failure types that tests may expect though no method declares them -/
  failures : List Expectation := []
  owned : ∀ m ∈ methods, m.descriptor.className = fixture.name := by simp

namespace TestClass

variable {σ : Type}

/-- A class is named after its fixture type. -/
def name (c : TestClass σ) : String := c.fixture.name

/-- Registers one more method. -/
def register (c : TestClass σ) (kind : MethodKind) (name : String) (body : Body σ)
    (expected : Option Expectation := none) : TestClass σ :=
  { c with
    methods := c.methods ++ [⟨⟨c.name, name⟩, kind, body, expected⟩]
    owned := fun m hm => by
      rcases List.mem_append.1 hm with h | h
      · exact c.owned m h
      · cases List.mem_singleton.1 h; rfl }

/-- Declares a failure type that tests may expect. -/
def declare (c : TestClass σ) (e : Expectation) : TestClass σ := { c with failures := c.failures ++ [e] }

/-! ## Looking up methods -/

/-- The methods of one role, in order. -/
def methodsOf (c : TestClass σ) (kind : MethodKind) : List (TestMethod σ) :=
  c.methods.filter (·.kind == kind)

/-- The first method registered under a name. -/
def method? (c : TestClass σ) (name : String) : Option (TestMethod σ) := c.methods.find? (·.name == name)

def declares (c : TestClass σ) (name : String) : Bool := (c.method? name).isSome

def shown (c : TestClass σ) : String :=
  recorded "TestClass" [("class", quoted c.name), ("methods", bracketed (c.methods.map TestMethod.shown)),
    ("failures", bracketed (c.failures.map Expectation.shown))]

/-! ## Problems -/

/-- The problems of one method, after the methods with the given names. -/
def problemsOf (seen : List String) (m : TestMethod σ) : List ClassProblem :=
  (if m.name = "" then [.emptyName m.kind] else []) ++
  (if m.name ∈ seen then [.repeatedName m.name] else []) ++
  (if m.expected.isSome && !m.kind.isTest then [.expectingHook m.kind m.name] else [])

/-- The problems of a list of methods, after the methods with the given names. -/
def problemsFrom (seen : List String) : List (TestMethod σ) → List ClassProblem
  | [] => []
  | m :: ms => problemsOf seen m ++ problemsFrom (m.name :: seen) ms

/-- Why the class cannot be run, in the order of registration. -/
def problems (c : TestClass σ) : List ClassProblem := problemsFrom [] c.methods

/-- A class that can be run: names are there and differ, and only tests expect failures. -/
structure Valid (c : TestClass σ) : Prop where
  name_ne : ∀ m ∈ c.methods, m.name ≠ ""
  names_nodup : (c.methods.map TestMethod.name).Nodup
  test_of_expected : ∀ m ∈ c.methods, m.expected.isSome → m.kind.isTest

end TestClass

end Interleave
