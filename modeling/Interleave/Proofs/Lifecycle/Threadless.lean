import Interleave.Lifecycle
import Interleave.Proofs.Session.Steady

/-!
# Lifecycles without threads

A body without threads has one way through, loses no shared value, and panics, if it does, in its own code
(`Body.Threadless`). A lifecycle of such bodies

- can run in one way only (`Lifecycle.exists_ways_eq`);
- is steady: where it runs is of no account to what it ends with and to which bodies it runs
  (`Lifecycle.steady_runWith`, `Lifecycle.exists_goes_runOnce`).
-/

namespace Interleave

variable {σ : Type}

/-- A body that does without threads. -/
structure Body.Threadless (b : Body σ) : Prop where
  others : ∀ s, b.others s = []
  leaks : ∀ s, (b.first s).leaks = false
  origin : ∀ s p, (b.first s).ending = .panics p → p.origin = .body

namespace Body.Threadless

variable {b : Body σ} (h : b.Threadless)
include h

theorem passages (s : σ) : b.passages s = [b.first s] := by
  rw [Body.passages, h.others]

theorem run (n : Nat) (s : σ) : b.run n s = b.first s := by
  rw [Body.run, h.passages]
  cases n <;> rfl

theorem returns (s : σ) : (b.first s).returns = true := by
  rw [Passage.returns]
  rcases hend : (b.first s).ending with _ | _ | _ | ⟨payload, origin⟩
  · rfl
  · rfl
  · rfl
  · obtain rfl : origin = .body := h.origin s _ hend
    rfl

end Body.Threadless

/-- A sequential body does without threads unless it panics in the name of one. -/
theorem Body.threadless_sequential {f : σ → σ × Ending} (h : ∀ s p, (f s).2 = .panics p → p.origin = .body) :
    (sequential f).Threadless := ⟨fun _ => rfl, fun _ => rfl, h⟩

/-- A lifecycle of bodies that do without threads. -/
structure Lifecycle.Threadless (l : Lifecycle σ) : Prop where
  befores : ∀ m ∈ l.befores, m.body.Threadless
  test : l.test.body.Threadless
  afters : ∀ m ∈ l.afters, m.body.Threadless

/-! ## Steady runs -/

/-- A panic in the code of a body becomes a failure, as nothing has panicked in the scheduler. -/
theorem steady_catchPanic {p : Panic} (hp : p.origin = .body) : Steady (catchPanic p) [] := by
  intro n
  obtain ⟨f, n', names, k, hsub, hgo⟩ := steady_raiseDraft (.ofFault (.panicked p.payload.message)) n
  refine ⟨f, n', names, k, hsub, fun s hs hn => ?_⟩
  have hcalm : ¬ (s.scheduler.exploring = true ∧ s.scheduler.panicked = true) := by
    rintro ⟨he, hpan⟩
    rw [hs he] at hpan
    cases hpan
  obtain ⟨payload, origin⟩ := p
  subst hp
  rw [← hgo s hs hn, catchPanic]
  show (catching (if s.scheduler.exploring = true ∧ (PanicOrigin.body = .thread ∨ s.scheduler.panicked = true)
    then throw _ else _)).run s = _
  rw [if_neg (by simpa using hcalm)]
  rfl

/-- A body that does not panic in the name of another thread or of the scheduler has an outcome. -/
theorem Ending.steady_outcome {e : Ending} (h : ∀ p, e = .panics p → p.origin = .body) : Steady e.outcome [] := by
  cases e with
  | passes => exact steady_pure _
  | raises f => exact steady_pure _
  | fails d => exact (steady_raiseDraft d).map Except.error
  | panics p => exact (steady_catchPanic (h p rfl)).map Except.error

/-- A method without threads leaves its name in the trace, takes one choice, whichever it is, and goes on with the
ending of its body. -/
theorem TestMethod.run_invoke {m : TestMethod σ} (hm : m.body.Threadless) (fixture : σ) (s : Session) :
    (catching (m.invoke fixture)).run s =
      (catching (Prod.mk (m.body.first fixture).fixture <$> (m.body.first fixture).ending.outcome)).run
        (s.passed s.nextFailure [.ran m.name] 1) := by
  rw [invoke, catching_bind_lift, catching_bind_lift]
  simp only [hm.run, hm.leaks, Bool.false_eq_true, if_false]
  rw [Session.passed, List.drop_one, map_eq_pure_bind]
  rfl

/-- Running a method without threads is steady. -/
theorem TestMethod.steady_invoke {m : TestMethod σ} (hm : m.body.Threadless) (fixture : σ) :
    Steady (m.invoke fixture) [m.name] := by
  intro n
  have hout := (Ending.steady_outcome (hm.origin fixture)).map (Prod.mk (m.body.first fixture).fixture)
  obtain ⟨r, n', names, k, hsub, hgo⟩ := hout n
  obtain rfl : names = [] := List.eq_nil_of_sublist_nil hsub
  refine ⟨r, n', [m.name], 1 + k, .refl _, fun s hs hn => ?_⟩
  rw [run_invoke hm, hgo _ (hs.passed _ _ _) hn, Session.passed_passed]
  rfl

/-- Holding an outcome against an expectation is steady. -/
theorem steady_meetExpectation (e : Option Expectation) (o : Outcome) :
    Steady (liftM (meetExpectation e o)) [] := by
  rcases e with _ | e
  · exact steady_pure _
  · rcases o with f | _
    · rw [meetExpectation]
      split
      · exact steady_pure _
      · exact (steady_raiseDraft _).map Except.error
    · exact (steady_raiseDraft _).map Except.error

/-- Running methods up to the first that fails is steady. -/
theorem steady_invokeUntilFailure {ms : List (TestMethod σ)} (h : ∀ m ∈ ms, m.body.Threadless) (fixture : σ) :
    Steady (invokeUntilFailure ms fixture) (ms.map TestMethod.name) := by
  induction ms generalizing fixture with
  | nil => exact steady_pure _
  | cons m ms ih =>
    obtain ⟨hm, hms⟩ := List.forall_mem_cons.1 h
    refine (TestMethod.steady_invoke hm fixture).bind ?_
    rintro ⟨fixture', _ | _⟩
    · exact (steady_pure _).mono (List.nil_sublist _)
    · exact ih hms fixture'

/-- Running methods whether they fail or not is steady. -/
theorem steady_invokeAll {ms : List (TestMethod σ)} (h : ∀ m ∈ ms, m.body.Threadless) (fixture : σ)
    (o : Outcome) : Steady (invokeAll ms fixture o) (ms.map TestMethod.name) := by
  induction ms generalizing fixture o with
  | nil => exact steady_pure _
  | cons m ms ih =>
    obtain ⟨hm, hms⟩ := List.forall_mem_cons.1 h
    exact (TestMethod.steady_invoke hm fixture).bind fun r => ih hms r.1 _

namespace Lifecycle

variable {l : Lifecycle σ}

/-- The methods of a lifecycle by name, in the order in which they run. -/
def plan (l : Lifecycle σ) : List String :=
  l.befores.map TestMethod.name ++ [l.test.name] ++ l.afters.map TestMethod.name

theorem steady_runToTest (hl : l.Threadless) (fixture : σ) :
    Steady (l.runToTest fixture) (l.befores.map TestMethod.name ++ [l.test.name]) := by
  refine (steady_invokeUntilFailure hl.befores fixture).bind ?_
  rintro ⟨fixture', _ | _⟩
  · exact (steady_pure _).mono (List.nil_sublist _)
  · refine (TestMethod.steady_invoke hl.test fixture').bind_pure fun r => ?_
    exact (steady_meetExpectation l.expected r.2).bind_pure fun o => steady_pure _

/-- A lifecycle of bodies without threads is steady, and runs each of its methods at most once. -/
theorem steady_runWith (hl : l.Threadless) (fixture : σ) : Steady (l.runWith fixture) l.plan :=
  (steady_runToTest hl fixture).bind fun r => steady_invokeAll hl.afters r.1 r.2

/-- A lifecycle of bodies without threads makes a fixture and then goes one way. -/
theorem exists_goes_runOnce (hl : l.Threadless) (n : Nat) :
    ∃ (o : Outcome) (n' : Nat) (names : List String) (k : Nat),
      names.Sublist l.plan ∧ Goes l.runOnce n o n' (.built l.fixture.name :: names.map .ran) k := by
  obtain ⟨o, n', names, k, hsub, hgo⟩ := (steady_runWith hl l.fixture.fresh).map Prod.snd n
  refine ⟨o, n', names, k, hsub, fun s hs hn => ?_⟩
  have hrun := hgo (s.passed s.nextFailure [.built l.fixture.name] 0) (hs.passed _ _ _) hn
  rw [Session.passed_passed, Nat.zero_add] at hrun
  rw [runOnce, catching_bind_lift, ← map_eq_pure_bind]
  exact hrun

end Lifecycle

/-! ## Ways -/

/-- Methods without threads run in one way, whether they fail or not. -/
theorem Lifecycle.exists_waysAll_eq {ms : List (TestMethod σ)} (h : ∀ m ∈ ms, m.body.Threadless) (fixture : σ) :
    ∃ way, waysAll ms fixture = [way] := by
  induction ms generalizing fixture with
  | nil => exact ⟨[], rfl⟩
  | cons m ms ih =>
    obtain ⟨hm, hms⟩ := List.forall_mem_cons.1 h
    obtain ⟨way, hway⟩ := ih hms (m.body.first fixture).fixture
    refine ⟨0 :: way, ?_⟩
    rw [waysAll, hm.passages]
    simp [hm.returns, hway]

/-- Methods without threads run in one way up to the first that fails. -/
theorem Lifecycle.exists_waysUntilFailure_eq {rest last ms : List (TestMethod σ)}
    (hrest : ∀ m ∈ rest, m.body.Threadless) (hlast : ∀ m ∈ last, m.body.Threadless)
    (h : ∀ m ∈ ms, m.body.Threadless) (fixture : σ) : ∃ way, waysUntilFailure rest last ms fixture = [way] := by
  induction ms generalizing fixture with
  | nil => exact exists_waysAll_eq (List.forall_mem_append.2 ⟨hrest, hlast⟩) fixture
  | cons m ms ih =>
    obtain ⟨hm, hms⟩ := List.forall_mem_cons.1 h
    obtain ⟨way, hway⟩ := ih hms (m.body.first fixture).fixture
    obtain ⟨way', hway'⟩ := exists_waysAll_eq hlast (m.body.first fixture).fixture
    rw [waysUntilFailure, hm.passages]
    by_cases hpass : (m.body.first fixture).passes
    · exact ⟨0 :: way, by simp [hpass, hway]⟩
    · exact ⟨0 :: way', by simp [hpass, hm.returns, hway']⟩

/-- A lifecycle of bodies without threads runs in one way. -/
theorem Lifecycle.exists_ways_eq {l : Lifecycle σ} (hl : l.Threadless) : ∃ way, l.ways = [way] :=
  exists_waysUntilFailure_eq (by simpa using hl.test) hl.afters hl.befores l.fixture.fresh

end Interleave
