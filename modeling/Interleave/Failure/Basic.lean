import Interleave.Method
import Interleave.Json.ReadError
import Interleave.Payload.Error

/-!
# Faults and failures

- `Fault`: what went wrong, as a tree: most faults stand alone, some have another as their `source`;
- `Fault.chain`: a fault, its source, the source of that, and so on (`chain_eq`);
- `Failure`: a fault that was raised, with an identity that every copy keeps;
- `Failure.is`: whether a fault of a given type is on the chain (`is_iff`).

A fault raised in another process arrives as `Fault.remote`. The failure then reports the type name it had
there, but as a fault it is of the remote type only.
-/

namespace Interleave

open Text

/-! ## The tree of faults -/

mutual

/-- What went wrong. -/
inductive Fault
  /-- a fault of a type that the tests define themselves -/
  | custom (typeName text : String) (source : Option Fault)
  | io (message : String)
  /-- an input or output fault made from another fault, whose text it takes over -/
  | ioOf (payload : Fault)
  | panicked (message : String)
  | missing (expected : String)
  | unexpected (expected : String) (actual : Failure)
  | unattributed (description : String)
  | remote (typeName message : String) (backtrace : Option String)
  | configuration (e : ConfigurationError)
  | engine (e : EngineError)
  | invocation (e : InvocationError)
  /-- a text that is not the JSON that was wanted -/
  | json (e : Json.ReadError)
  /-- a token list that is no command line -/
  | arguments (e : ArgumentError)
  /-- a value that is no test -/
  | testSpec (e : TestSpecError)

/-- A fault that was raised: copies share the identity `id`, and no other failure has it. -/
structure Failure where
  id : Nat
  typeName : String
  fault : Fault

/-- Why a checking engine could not answer. -/
inductive EngineError
  | noObservations
  | payload (e : PayloadError)
  | unknownClass (name : String)
  | resolve (e : ConfigurationError)
  | aborted (reason : String)
  | spawn (program : String) (cause : Fault)
  | io (cause : Fault)
  | malformedEvent (line : String) (cause : Json.ReadError)
  | exited (status : String)

/-- Why a checked invocation did not pass. -/
inductive InvocationError
  | configuration (e : ConfigurationError)
  | engine (e : EngineError)
  | testFailed (failure : Failure)

end

/-! ## Names and texts -/

/-- The name of a fault's type. -/
def Fault.typeName : Fault → String
  | custom t _ _ => t
  | io _ | ioOf _ => "core::io::error::Error"
  | panicked _ => "weft::failure::Panicked"
  | missing _ => "weft::failure::MissingExpectedFailure"
  | unexpected _ _ => "weft::failure::UnexpectedFailure"
  | unattributed _ => "weft::failure::UnattributedViolation"
  | remote _ _ _ => "weft::failure::RemoteFailure"
  | configuration _ => "weft::class::ConfigurationError"
  | engine _ => "weft::engine::EngineStartupError"
  | invocation _ => "weft::invocation::InvocationError"
  | json _ => "serde_json::error::Error"
  | arguments _ => "clap_builder::error::Error"
  | testSpec _ => "<alloc::boxed::Box<dyn core::error::Error + core::marker::Send + core::marker::Sync> as " ++
      "core::convert::From<alloc::string::String>>::from::StringError"

mutual

def Fault.text : Fault → String
  | .custom _ t _ => t
  | .io m => m
  | .ioOf p => p.text
  | .panicked m => "test panicked: " ++ m
  | .missing e => "expected failure of type " ++ e ++ ", but the test completed"
  | .unexpected e f => "unexpected failure, expected " ++ e ++ " but was " ++ f.text
  | .unattributed d => "interleaving violated a safety property: " ++ d
  | .remote _ m _ => m
  | .configuration e => e.message
  | .engine e => e.text
  | .invocation e => e.text
  | .json e => e.message
  | .arguments e => "error: " ++ e.message
  | .testSpec e => e.message

/-- A failure in one line: the type name it reports, and the text of its fault. -/
def Failure.text : Failure → String
  | ⟨_, t, fault⟩ => t ++ ": " ++ fault.text

def EngineError.text : EngineError → String
  | .noObservations => "checking engine reported no observations"
  | .payload e => e.message
  | .unknownClass c => "no test class named " ++ c ++ " is registered with the engine"
  | .resolve e => "cannot resolve checked test: " ++ e.message
  | .aborted reason => "checking engine failed before exploring: " ++ reason
  | .spawn program cause => "failed to spawn checking engine " ++ program ++ ": " ++ cause.text
  | .io cause => "checking engine I/O failed: " ++ cause.text
  | .malformedEvent line cause => "malformed engine event " ++ quoted line ++ ": " ++ cause.message
  | .exited status => "checking engine exited with " ++ status

def InvocationError.text : InvocationError → String
  | .configuration e => e.message
  | .engine e => e.text
  | .testFailed f => f.text

end

/-- A fault from another process has the message that it had there. -/
theorem Fault.text_remote (typeName message : String) (backtrace : Option String) :
    (Fault.remote typeName message backtrace).text = message := by
  unfold Fault.text
  rfl

namespace Failure

/-- The text of the fault. -/
def message (f : Failure) : String := f.fault.text

theorem text_eq (f : Failure) : f.text = f.typeName ++ ": " ++ f.message := by
  obtain ⟨_, _, _⟩ := f; rw [Failure.text, message]

/-- The failure in quoted form. -/
def shown (f : Failure) : String :=
  recordedOpen "TestFailure" [("type_name", quoted f.typeName), ("message", quoted f.message)]

/-- The failure in quoted form, a line for each field. -/
def shownLines (f : Failure) : String :=
  recordedOpenLines "TestFailure" [("type_name", quoted f.typeName), ("message", quoted f.message)]

/-- Whether two failures are copies of one. -/
def same (f g : Failure) : Bool := f.id == g.id

end Failure

/-- A failure that is yet to be raised: it has no identity. -/
structure Draft where
  typeName : String
  fault : Fault

/-- A fault raised under the name of its type. -/
def Draft.ofFault (fault : Fault) : Draft := ⟨fault.typeName, fault⟩

/-- A failure that was raised in another process, under the name it had there. -/
def Draft.remote (typeName message : String) (backtrace : Option String) : Draft :=
  ⟨typeName, .remote typeName message backtrace⟩

/-- The backtraces that are captured with the failures of a process, by identity. There are none where backtraces are
off. -/
abbrev Backtraces := Nat → Option String

namespace Failure

/-- Whether a failure comes from another process: it goes by the name that its fault has from there. A remote fault
that is raised here goes by the name of its own type; it counts as one from elsewhere only if it has brought just that
name. -/
def isRemote (f : Failure) : Bool :=
  match f.fault with
  | .remote typeName _ _ => f.typeName == typeName
  | _ => false

/-- The backtrace that was captured with a failure. None is captured with one that comes from another process: the
backtrace from there is in its fault. -/
def backtrace? (f : Failure) (captured : Backtraces) : Option String := if f.isRemote then none else captured f.id

end Failure

/-! ## Sources -/

/-- What is wrong with the value of an option, if that is why the options cannot be read. -/
def ArgumentError.source : ArgumentError → Option Fault
  | .invalidTest _ reason => some (.testSpec reason)
  | .unknownArgument _ | .missingValue _ | .repeated _ => none

def PayloadError.source : PayloadError → Option Fault
  | .malformed e => some (.arguments e)
  | .missingTest _ | .missingTestClass _ => none

/-- The fault that an engine error gives as its source. For a payload that was refused it shows the source of the
refusal, not the refusal itself. -/
def EngineError.source : EngineError → Option Fault
  | .payload e => e.source
  | .resolve e => some (.configuration e)
  | .spawn _ cause => some cause
  | .io cause => some cause
  | .malformedEvent _ cause => some (.json cause)
  | .noObservations | .unknownClass _ | .aborted _ | .exited _ => none

/-- An invocation error shows the source of the error it stands for; a failed test is where a chain ends. -/
def InvocationError.source : InvocationError → Option Fault
  | .engine e => e.source
  | .configuration _ | .testFailed _ => none

/-- The fault behind a fault. One made from another fault shows the source of that one, not the fault itself. -/
def Fault.source : Fault → Option Fault
  | .custom _ _ s => s
  | .ioOf p => p.source
  | .unexpected _ f => some f.fault
  | .engine e => e.source
  | .invocation e => e.source
  | .arguments e => e.source
  | .io _ | .panicked _ | .missing _ | .unattributed _ | .remote _ _ _ | .configuration _ | .json _ | .testSpec _ =>
    none

theorem ArgumentError.sizeOf_source_lt {e : ArgumentError} {s : Fault} (h : e.source = some s) :
    sizeOf s < sizeOf (Fault.arguments e) := by
  cases e <;> simp only [source, Option.some.injEq, reduceCtorEq] at h
  subst h
  simp only [Fault.testSpec.sizeOf_spec, Fault.arguments.sizeOf_spec, ArgumentError.invalidTest.sizeOf_spec]
  omega

theorem PayloadError.sizeOf_source_lt {e : PayloadError} {s : Fault} (h : e.source = some s) :
    sizeOf s < sizeOf (Fault.engine (.payload e)) := by
  cases e <;> simp only [source, Option.some.injEq, reduceCtorEq] at h
  subst h
  simp only [Fault.arguments.sizeOf_spec, Fault.engine.sizeOf_spec, EngineError.payload.sizeOf_spec,
    PayloadError.malformed.sizeOf_spec]
  omega

theorem EngineError.sizeOf_source_lt {e : EngineError} {s : Fault} (h : e.source = some s) :
    sizeOf s < sizeOf (Fault.engine e) := by
  cases e with
  | payload e => exact PayloadError.sizeOf_source_lt h
  | _ => simp only [source, Option.some.injEq, reduceCtorEq] at h <;> subst h <;> simp <;> omega

theorem InvocationError.sizeOf_source_lt {e : InvocationError} {s : Fault} (h : e.source = some s) :
    sizeOf s < sizeOf (Fault.invocation e) := by
  cases e with
  | engine e =>
    have := EngineError.sizeOf_source_lt (e := e) h
    simp at this ⊢; omega
  | configuration e => simp [source] at h
  | testFailed f => simp [source] at h

theorem Fault.sizeOf_source_lt : {f s : Fault} → f.source = some s → sizeOf s < sizeOf f
  | .custom _ _ _, _, h => by
    simp only [source] at h; subst h; simp; omega
  | .ioOf p, _, h => by
    have := Fault.sizeOf_source_lt (f := p) h
    simp; omega
  | .unexpected _ ⟨_, _, _⟩, _, h => by
    simp only [source, Option.some.injEq] at h; subst h; simp; omega
  | .engine _, _, h => EngineError.sizeOf_source_lt h
  | .invocation _, _, h => InvocationError.sizeOf_source_lt h
  | .arguments _, _, h => ArgumentError.sizeOf_source_lt h

/-- A fault and everything behind it, outermost first. -/
def Fault.chain (f : Fault) : List Fault :=
  f :: match _h : f.source with
    | none => []
    | some s => s.chain
termination_by sizeOf f
decreasing_by exact Fault.sizeOf_source_lt _h

theorem Fault.chain_eq (f : Fault) : f.chain = f :: (f.source.map Fault.chain).getD [] := by
  rw [Fault.chain]; split <;> simp_all

namespace Failure

/-- The outermost fault of a given type on the failure's chain. -/
def find? (f : Failure) (typeName : String) : Option Fault :=
  f.fault.chain.find? (·.typeName == typeName)

/-- Whether a fault of the given type is on the failure's chain. -/
def is (f : Failure) (typeName : String) : Bool := (f.find? typeName).isSome

/-- The faults behind the one that was raised. -/
def sources (f : Failure) : List Fault := f.fault.chain.tail

theorem is_iff (f : Failure) (t : String) : f.is t ↔ ∃ g ∈ f.fault.chain, g.typeName = t := by
  simp [is, find?]

end Failure

end Interleave
