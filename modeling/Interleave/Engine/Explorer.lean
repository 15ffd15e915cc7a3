import Interleave.Engine.Basic
import Interleave.Engine.Exploration
import Interleave.Bounds.Basic
import Interleave.TestClass.Resolve
import Interleave.Payload.Arguments

/-!
# Exploring a test in the process itself

The explorer resolves the payload against its registry and explores the lifecycle (`Explorer.answerUnder`). Its own
scheduler tries every way in which the lifecycle can go (`Bounds.search`): bounds that cannot be set up keep it from
starting, and it objects to a run that lost a shared value or that may make no choices.
-/

namespace Interleave

open Session

variable {σ : Type}

/-! ## Within bounds -/

/-- Without branches, the first choice that the scheduler would have to make ends the run. -/
def Body.withoutBranches (b : Body σ) : Body σ :=
  let cut (p : Passage σ) : Passage σ :=
    if p.scheduled then { p with ending := .panics ⟨.text Scheduler.branchLimitText, .scheduler⟩ } else p
  { first := fun s => cut (b.first s), others := fun s => (b.others s).map cut }

def TestMethod.withoutBranches (m : TestMethod σ) : TestMethod σ := { m with body := m.body.withoutBranches }

/-- The lifecycle as it runs within bounds. -/
def Lifecycle.within (l : Lifecycle σ) (bounds : Bounds) : Lifecycle σ :=
  if bounds.maxBranches = 0 then
    { l with
      befores := l.befores.map TestMethod.withoutBranches
      test := l.test.withoutBranches
      afters := l.afters.map TestMethod.withoutBranches }
  else l

/-- What an execution runs: nothing for a warm-up. -/
def runWithin (bounds : Bounds) : Option (Lifecycle σ) → Action Outcome
  | none => pure (.ok ())
  | some l => (l.within bounds).runOnce

namespace Bounds

/-- What the scheduler has to object to an execution whose run passed. -/
def objection (bounds : Bounds) (s : Scheduler) : Option Panic :=
  if s.leaked then some ⟨.text Scheduler.leakText, .scheduler⟩
  else if bounds.maxBranches = 0 then some ⟨.text Scheduler.branchLimitText, .scheduler⟩
  else none

/-- Every way in which a lifecycle can go. -/
def search (bounds : Bounds) (l : Option (Lifecycle σ)) : Scheduling :=
  match bounds.refusal with
  | some reason => .refuses ⟨.text reason, .scheduler⟩
  | none =>
    let ways := match l with
      | none => [[]]
      | some l => (l.within bounds).ways
    .runs (ways.map fun way => { way, closing := bounds.objection })

end Bounds

/-! ## The engine -/

structure Explorer (σ : Type) where
  registry : Registry σ
  bounds : Bounds := {}

namespace Explorer

/-- The lifecycle that a payload asks for, nothing for a warm-up. -/
def resolve (x : Explorer σ) (known : Catalogue) (a : Arguments) : Except EngineError (Option (Lifecycle σ)) :=
  match a.checkedTest? with
  | none => .ok none
  | some t =>
    match x.registry.find? t.className with
    | none => .error (.unknownClass t.className)
    | some c =>
      match c.resolve known t with
      | .ok l => .ok (some l)
      | .error e => .error (.resolve e)

/-- Answers a payload with one observation, or an error, under the scheduling of any scheduler. -/
def answerUnder (x : Explorer σ) (search : Option (Lifecycle σ) → Scheduling) (p : Payload) : Quiet Answer := do
  match Arguments.read p.tokens with
  | .error e => return .failed (.payload e)
  | .ok a =>
    span .info "explore" [("class", a.testClass.getD ""), ("method", (a.test.map TestSpec.method).getD "")]
    match x.resolve (← get).catalogue a with
    | .error e => return .failed e
    | .ok l =>
      event .debug "starting exploration" [("payload", p.text)]
      match ← (search l).explore (runWithin x.bounds l) with
      | .completed => return { observations := [.completed] }
      | .failed f => return { observations := [.thrown f] }
      | .violated d => return { observations := [.violated d] }
      | .aborted reason => return .failed (.aborted reason)

def explore (x : Explorer σ) (l : Option (Lifecycle σ)) : Quiet Exploration :=
  (x.bounds.search l).explore (runWithin x.bounds l)

/-- Answers a payload with one observation, or an error. -/
def answer (x : Explorer σ) (p : Payload) : Quiet Answer := x.answerUnder x.bounds.search p

def engine (x : Explorer σ) (id : Nat) : Engine := ⟨id, fun _ p => x.answer p⟩

/-- The engine under the scheduling of any scheduler. -/
def engineUnder (x : Explorer σ) (search : Option (Lifecycle σ) → Scheduling) (id : Nat) : Engine :=
  ⟨id, fun _ p => x.answerUnder search p⟩

end Explorer

end Interleave
