import Interleave.Lifecycle
import Interleave.Payload.Basic

/-!
# Requests to a class

- `validate`: whether methods, given by descriptor, can be run in the roles they are wanted in;
- `resolve`: the lifecycle of a test given by names, as a payload brings it;
- `Payload.build`: the payload of a valid request; the expectation in it is remembered, so that it can be found
  by name;
- `Registry`: classes by name.
-/

namespace Interleave

namespace TestClass

variable {σ : Type}

/-- The method registered under a name, if it can be used in the wanted role. -/
def inRole (c : TestClass σ) (wanted : MethodKind) (name : String) : Except ConfigurationError (TestMethod σ) :=
  match c.method? name with
  | none => .error (.undeclaredMethod c.name name)
  | some m => if m.kind.fits wanted then .ok m else .error (.wrongKind c.name name wanted m.kind)

/-- The method a descriptor names, if it is one of this class and can be used in the wanted role. -/
def described (c : TestClass σ) (wanted : MethodKind) (d : Descriptor) :
    Except ConfigurationError (TestMethod σ) :=
  if d.className = c.name then c.inRole wanted d.name
  else .error (.foreignMethod c.name d.name d.className)

/-- Checks that methods can be run in their roles; the first that cannot decides. -/
def validate (c : TestClass σ) (test : Descriptor) (befores afters : List Descriptor) :
    Except ConfigurationError Unit := do
  discard <| c.described .concurrent test
  discard <| befores.mapM (c.described .before)
  discard <| afters.mapM (c.described .after)

/-- The expectation of a type name that is known to the class, or else to the catalogue. -/
def expectation? (c : TestClass σ) (known : Catalogue) (typeName : String) : Option Expectation :=
  (c.methods.filterMap TestMethod.expected ++ c.failures ++ [Expectation.panic]).find? (·.typeName == typeName)
    |>.or (known.find? typeName)

/-- The lifecycle of a test given by names. -/
def resolve (c : TestClass σ) (known : Catalogue) (t : CheckedTest) :
    Except ConfigurationError (Lifecycle σ) := do
  let befores ← t.befores.mapM (c.inRole .before)
  let afters ← t.afters.mapM (c.inRole .after)
  let test ← c.inRole .concurrent t.test.method
  let expected ← t.test.exception.mapM fun e =>
    match c.expectation? known e with
    | some expected => .ok expected
    | none => .error (.unknownFailureType c.name e)
  return { fixture := c.fixture, befores, test, afters, expected }

end TestClass

/-! ## Building payloads -/

variable {σ : Type}

/-- The payload of a request to a class. -/
def Payload.build (c : TestClass σ) (test : Descriptor) (befores afters : List Descriptor)
    (expected : Option Expectation) : Quiet (Except ConfigurationError Payload) := do
  match c.validate test befores afters with
  | .error e => return .error e
  | .ok () =>
    if let some e := expected then Session.remember e
    return .ok <| .ofTest
      { className := c.name
        test := ⟨test.name, expected.map Expectation.typeName⟩
        befores := befores.map Descriptor.name
        afters := afters.map Descriptor.name }

/-! ## Registries -/

/-- Classes by name, the latest registered first. -/
structure Registry (σ : Type) where
  classes : List (TestClass σ) := []

namespace Registry

/-- Registers a class in place of one of the same name. -/
def register (r : Registry σ) (c : TestClass σ) : Registry σ :=
  ⟨c :: r.classes.filter (·.name != c.name)⟩

def ofList (cs : List (TestClass σ)) : Registry σ := cs.foldl register {}

def find? (r : Registry σ) (name : String) : Option (TestClass σ) := r.classes.find? (·.name == name)

/-- The names of the registered classes. -/
def shown (r : Registry σ) : String :=
  "\x7b" ++ ", ".intercalate (r.classes.map fun c => Text.quoted c.name) ++ "\x7d"

theorem find?_register_self (r : Registry σ) (c : TestClass σ) : (r.register c).find? c.name = some c := by
  simp [register, find?]

end Registry

end Interleave
