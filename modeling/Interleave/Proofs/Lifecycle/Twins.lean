import Interleave.Proofs.Session.Twins

/-!
# Lifecycles in two sessions

A run of a lifecycle ends alike in any two sessions in which the scheduler is doing the same: with the same fixture, and
with outcomes that differ in the identity of a failure that was raised in the run only (`Lifecycle.twin_runOnce`).
Nothing else in a session bears on a test.
-/

namespace Interleave

variable {σ : Type} {n m : Nat}

/-- Runs that leave the same fixture, with counterparts as outcomes. -/
def SameRun (n m : Nat) (a b : σ × Outcome) : Prop := a.1 = b.1 ∧ a.2.Counterpart n m b.2

/-- The ending of a body has counterparts as outcomes. -/
theorem Ending.twin_outcome (e : Ending) : Twin n m (Outcome.Counterpart n m) e.outcome e.outcome := by
  cases e with
  | passes => exact twin_pure .ok
  | raises f => exact twin_pure (.refl _)
  | fails d => exact (twin_raiseDraft d).map fun _ _ h => .error h
  | panics p => exact (twin_catchPanic p).map fun _ _ h => .error h

theorem TestMethod.twin_invoke (method : TestMethod σ) (fixture : σ) :
    Twin n m (SameRun n m) (method.invoke fixture) (method.invoke fixture) := by
  rw [invoke]
  refine (twin_mark _).bind fun _ _ _ => twin_nextChoice.bind fun choice choice' h => ?_
  subst h
  have hreturn : ∀ u u' : Unit, True → Twin n m (SameRun n m)
      (do return ((method.body.run choice fixture).fixture, ← (method.body.run choice fixture).ending.outcome))
      (do return ((method.body.run choice fixture).fixture, ← (method.body.run choice fixture).ending.outcome)) :=
    fun _ _ _ => (Ending.twin_outcome _).bind fun _ _ h => twin_pure ⟨rfl, h⟩
  dsimp only
  split
  · have hleak := twin_modify (n := n) (m := m) (g := fun s => { s with leaked := s.exploring }) (fun _ => rfl)
      (fun _ => rfl) rfl
    exact hleak.bind hreturn
  · exact hreturn () () trivial

/-- Counterparts meet an expectation or not, and if not the mismatches are counterparts. -/
theorem twin_meetExpectation (expected : Option Expectation) {o o' : Outcome} (h : o.Counterpart n m o') :
    Twin n m (Outcome.Counterpart n m) (liftM (meetExpectation expected o)) (liftM (meetExpectation expected o')) := by
  cases expected with
  | none => exact twin_pure h
  | some e =>
    cases h with
    | ok => exact (twin_raiseDraft (.ofFault (.missing e.typeName))).map fun _ _ h => .error h
    | @error f g h =>
      rw [meetExpectation, meetExpectation, h.alike.meets e]
      split
      · exact twin_pure .ok
      · exact (twin_raise_unexpected e.typeName h).map fun _ _ h => .error h

theorem twin_invokeUntilFailure (ms : List (TestMethod σ)) (fixture : σ) :
    Twin n m (SameRun n m) (invokeUntilFailure ms fixture) (invokeUntilFailure ms fixture) := by
  induction ms generalizing fixture with
  | nil => exact twin_pure ⟨rfl, .ok⟩
  | cons method ms ih =>
    refine (method.twin_invoke fixture).bind ?_
    rintro ⟨fixture', _⟩ ⟨_, _⟩ ⟨rfl, _ | h⟩
    · exact ih fixture'
    · exact twin_pure ⟨rfl, .error h⟩

theorem twin_invokeAll (ms : List (TestMethod σ)) (fixture : σ) {o o' : Outcome} (h : o.Counterpart n m o') :
    Twin n m (SameRun n m) (invokeAll ms fixture o) (invokeAll ms fixture o') := by
  induction ms generalizing fixture o o' with
  | nil => exact twin_pure ⟨rfl, h⟩
  | cons method ms ih =>
    refine (method.twin_invoke fixture).bind ?_
    rintro ⟨fixture', p⟩ ⟨_, p'⟩ ⟨rfl, h'⟩
    exact ih fixture' (h.orElse h')

namespace Lifecycle

variable (l : Lifecycle σ) (fixture : σ)

theorem twin_runToTest : Twin n m (SameRun n m) (l.runToTest fixture) (l.runToTest fixture) := by
  refine (twin_invokeUntilFailure l.befores fixture).bind ?_
  rintro ⟨fixture', _⟩ ⟨_, _⟩ ⟨rfl, _ | h⟩
  · refine (l.test.twin_invoke fixture').bind ?_
    rintro ⟨fixture'', o⟩ ⟨_, o'⟩ ⟨rfl, h⟩
    exact (twin_meetExpectation l.expected h).bind fun _ _ h => twin_pure ⟨rfl, h⟩
  · exact twin_pure ⟨rfl, .error h⟩

theorem twin_runWith : Twin n m (SameRun n m) (l.runWith fixture) (l.runWith fixture) := by
  refine (l.twin_runToTest fixture).bind ?_
  rintro ⟨fixture', o⟩ ⟨_, o'⟩ ⟨rfl, h⟩
  exact twin_invokeAll l.afters fixture' h

/-- A lifecycle has counterparts as outcomes in any two sessions with the same scheduler. -/
theorem twin_runOnce : Twin n m (Outcome.Counterpart n m) l.runOnce l.runOnce :=
  (twin_mark _).bind fun _ _ _ => (l.twin_runWith l.fixture.fresh).bind fun _ _ h => twin_pure h.2

end Lifecycle

end Interleave
