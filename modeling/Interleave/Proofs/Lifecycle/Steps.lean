import Interleave.Proofs.Lifecycle.Threadless

/-!
# What a run leaves in the trace

- A method leaves its name in the trace and goes on with the ending of one of its passages
  (`TestMethod.exists_run_invoke`). Where no exploration is under way, a panic becomes a failure, whoever panicked
  (`run_catchPanic_of_idle`).
- A run that passes has run every method of the lifecycle once, in order, on one fixture
  (`Lifecycle.trace_of_run_runOnce`).
-/

namespace Interleave

variable {σ : Type}

/-! ## Methods -/

/-- The session behind the body of a method, before its ending counts. -/
def Session.ran (s : Session) (method : String) (leaked : Bool) : Session :=
  { s with
    trace := s.trace ++ [.ran method]
    scheduler := { s.scheduler with choices := s.scheduler.choices.tail, leaked } }

/-- A method leaves its name in the trace, takes one choice, and goes on with the ending of the passage that it has
chosen. -/
theorem TestMethod.exists_run_invoke (m : TestMethod σ) (fixture : σ) (s : Session) :
    let passage := m.body.run (s.scheduler.choices.headD 0) fixture
    ∃ leaked, (catching (m.invoke fixture)).run s =
      (catching (Prod.mk passage.fixture <$> passage.ending.outcome)).run (s.ran m.name leaked) := by
  intro passage
  rw [invoke, catching_bind_lift, catching_bind_lift, map_eq_pure_bind]
  show ∃ leaked, (catching (let passage' := passage; _)).run _ = _
  dsimp only
  split
  · exact ⟨s.scheduler.exploring, rfl⟩
  · exact ⟨s.scheduler.leaked, rfl⟩

/-- Where no exploration is under way, a panic becomes a failure, whoever panicked. -/
theorem run_catchPanic_of_idle (p : Panic) {s : Session} (hs : s.Idle) : (catching (catchPanic p)).run s =
    (.ok ⟨s.nextFailure, "weft::failure::Panicked", .panicked p.payload.message⟩,
      { s with nextFailure := s.nextFailure + 1 }) := by
  obtain ⟨payload, origin⟩ := p
  obtain ⟨next, trace, log, catalogue, ⟨exploring, panicked, choices, leaked⟩, deliveries, primed⟩ := s
  obtain rfl : exploring = false := hs
  cases origin <;> rfl

/-! ## Traces -/

/-- A panic that becomes a failure leaves nothing in the trace. -/
theorem trace_of_run_catchPanic {p : Panic} {s t : Session} {f : Failure}
    (h : (catching (catchPanic p)).run s = (.ok f, t)) : t.trace = s.trace := by
  obtain ⟨payload, origin⟩ := p
  obtain ⟨next, trace, log, catalogue, ⟨exploring, panicked, choices, leaked⟩, deliveries, primed⟩ := s
  cases origin <;> cases exploring <;> cases panicked <;> cases h <;> rfl

theorem Ending.trace_of_run_outcome {e : Ending} {s t : Session} {o : Outcome}
    (h : (catching e.outcome).run s = (.ok o, t)) : t.trace = s.trace := by
  cases e with
  | passes =>
    cases h
    rfl
  | raises f =>
    cases h
    rfl
  | fails d =>
    cases h
    rfl
  | panics p =>
    rw [outcome, map_eq_pure_bind, catching_bind_eq_ok_iff] at h
    obtain ⟨f, u, hf, hu⟩ := h
    cases hu
    exact trace_of_run_catchPanic hf

/-- A method that ends without a panic has left its name in the trace, and nothing else. -/
theorem TestMethod.trace_of_run_invoke {m : TestMethod σ} {fixture : σ} {s t : Session} {r : σ × Outcome}
    (h : (catching (m.invoke fixture)).run s = (.ok r, t)) : t.trace = s.trace ++ [.ran m.name] := by
  obtain ⟨leaked, hrun⟩ := m.exists_run_invoke fixture s
  rw [hrun, map_eq_pure_bind, catching_bind_eq_ok_iff] at h
  obtain ⟨o, u, ho, hu⟩ := h
  cases hu
  exact Ending.trace_of_run_outcome ho

/-- Methods of which none failed have all run. -/
theorem trace_of_run_invokeUntilFailure {ms : List (TestMethod σ)} {fixture fixture' : σ} {s t : Session}
    (h : (catching (invokeUntilFailure ms fixture)).run s = (.ok (fixture', .ok ()), t)) :
    t.trace = s.trace ++ ms.map fun m => .ran m.name := by
  induction ms generalizing fixture s with
  | nil =>
    cases h
    exact (List.append_nil _).symm
  | cons m ms ih =>
    rw [invokeUntilFailure, catching_bind_eq_ok_iff] at h
    obtain ⟨⟨fixture'', o⟩, u, hm, hms⟩ := h
    rcases o with f | _
    · cases hms
    · rw [ih hms, TestMethod.trace_of_run_invoke hm, List.append_assoc]
      rfl

/-- Methods that run whether they fail or not have all run, and pass only what passed before them. -/
theorem trace_of_run_invokeAll {ms : List (TestMethod σ)} {fixture fixture' : σ} {o : Outcome} {s t : Session}
    (h : (catching (invokeAll ms fixture o)).run s = (.ok (fixture', .ok ()), t)) :
    o = .ok () ∧ t.trace = s.trace ++ ms.map fun m => .ran m.name := by
  induction ms generalizing fixture o s with
  | nil =>
    cases h
    exact ⟨rfl, (List.append_nil _).symm⟩
  | cons m ms ih =>
    rw [invokeAll, catching_bind_eq_ok_iff] at h
    obtain ⟨⟨fixture'', o'⟩, u, hm, hms⟩ := h
    obtain ⟨ho, htrace⟩ := ih hms
    refine ⟨?_, ?_⟩
    · rcases o with f | _
      · cases ho
      · rfl
    · rw [htrace, TestMethod.trace_of_run_invoke hm, List.append_assoc]
      rfl

/-- To hold an outcome against an expectation leaves nothing in the trace. -/
theorem trace_run_meetExpectation (expected : Option Expectation) (o : Outcome) (s : Session) :
    ((meetExpectation expected o).run s).2.trace = s.trace := by
  rcases expected with _ | e
  · rfl
  · rcases o with f | _
    · rw [meetExpectation]
      split <;> rfl
    · rfl

namespace Lifecycle

variable {l : Lifecycle σ}

/-- What one run of all methods of the lifecycle leaves in the trace: a fixture, and the methods by name. -/
def wholeTrace (l : Lifecycle σ) : List Trace := .built l.fixture.name :: l.plan.map .ran

/-- A test that passed has run behind all befores. -/
theorem trace_of_run_runToTest {fixture fixture' : σ} {s t : Session}
    (h : (catching (l.runToTest fixture)).run s = (.ok (fixture', .ok ()), t)) :
    t.trace = s.trace ++ (l.befores.map fun m => .ran m.name) ++ [.ran l.test.name] := by
  rw [runToTest, catching_bind_eq_ok_iff] at h
  obtain ⟨⟨fixture'', o⟩, u, hbefores, htest⟩ := h
  rcases o with f | _
  · cases htest
  · obtain ⟨⟨_, o⟩, v, hinvoke, hmeet⟩ := catching_bind_eq_ok_iff.1 htest
    dsimp only at hmeet
    rw [catching_bind_lift] at hmeet
    have ht : ((meetExpectation l.expected o).run v).2 = t := congrArg Prod.snd hmeet
    rw [← ht, trace_run_meetExpectation, TestMethod.trace_of_run_invoke hinvoke,
      trace_of_run_invokeUntilFailure hbefores]

/-- A run that passes has made one fixture and has run every method on it, once and in order. -/
theorem trace_of_run_runOnce {s t : Session} (h : (catching l.runOnce).run s = (.ok (.ok ()), t)) :
    t.trace = s.trace ++ l.wholeTrace := by
  rw [runOnce, catching_bind_lift, runWith] at h
  obtain ⟨⟨fixture, o⟩, u, hwith, hu⟩ := catching_bind_eq_ok_iff.1 h
  cases hu
  obtain ⟨⟨fixture', o'⟩, v, hto, hafters⟩ := catching_bind_eq_ok_iff.1 hwith
  obtain ⟨rfl, htrace⟩ := trace_of_run_invokeAll hafters
  have hbuilt : ((Session.mark (.built l.fixture.name)).run s).2.trace = s.trace ++ [.built l.fixture.name] := rfl
  rw [htrace, trace_of_run_runToTest hto, hbuilt, wholeTrace, plan]
  simp only [List.map_append, List.map_map, List.map_cons, List.append_assoc, List.cons_append,
    List.nil_append, Function.comp_def]

end Lifecycle

end Interleave
