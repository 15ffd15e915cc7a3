import Interleave.Proofs.Lifecycle.Methods

/-!
# Courses of lifecycles

In an exploration, the choices of an execution say which methods of a lifecycle run, and in which of their passages.

- `Lifecycle.course`: these methods, in order. A panic of the scheduler, or one of another thread, leaves its method and
  ends the course; nothing comes behind it (`Orderly`, `Course.exists_append_of_mem`).
- `Follows`: a computation that runs the methods of a course, no more and no less, and that a panic leaves exactly if
  one ends the course. A method and what follows it make up a course (`follows_invoke_bind`).
- So every run of a lifecycle follows the course of the lifecycle (`Lifecycle.follows_runOnce`).
-/

namespace Interleave

variable {σ : Type}

/-! ## Panics that leave a method -/

namespace Passage

variable {p : Passage σ}

/-- The panic that leaves the method. -/
def panic? (p : Passage σ) : Option Panic :=
  match p.ending with
  | .panics q => if q.origin = .body then none else some q
  | _ => none

theorem panic?_eq_some_iff {q : Panic} : p.panic? = some q ↔ p.ending = .panics q ∧ q.origin ≠ .body := by
  rw [panic?]
  rcases p.ending with _ | _ | _ | q'
  · simp
  · simp
  · simp
  · dsimp only
    rw [Option.ite_none_left_eq_some, Option.some.injEq, Ending.panics.injEq]
    refine ⟨?_, ?_⟩
    · rintro ⟨horigin, rfl⟩
      exact ⟨rfl, horigin⟩
    · rintro ⟨rfl, horigin⟩
      exact ⟨horigin, rfl⟩

/-- A method returns exactly if no panic leaves it. -/
theorem panic?_eq_none_iff : p.panic? = none ↔ p.returns = true := by
  rw [panic?, returns]
  rcases p.ending with _ | _ | _ | ⟨payload, origin⟩
  · simp
  · simp
  · simp
  · cases origin <;> simp

end Passage

/-! ## Courses -/

/-- Methods that run one behind the other, each with the passage that it takes. -/
abbrev Course (σ : Type) := List (TestMethod σ × Passage σ)

/-- A method that runs, and the methods behind it if it returns. -/
def Course.step (m : TestMethod σ) (p : Passage σ) (behind : Course σ) : Course σ :=
  (m, p) :: if p.returns then behind else []

/-- The course of methods that run whether they fail or not. -/
def courseAll : List (TestMethod σ) → List Nat → σ → Course σ
  | [], _, _ => []
  | m :: ms, way, s => .step m (m.passage way s) (courseAll ms way.tail (m.passage way s).fixture)

/-- The course of methods of which a failing one ends the row; `rest` runs after all, `last` in any case. -/
def courseUntilFailure (rest last : List (TestMethod σ)) : List (TestMethod σ) → List Nat → σ → Course σ
  | [], way, s => courseAll (rest ++ last) way s
  | m :: ms, way, s =>
    let p := m.passage way s
    .step m p (if p.passes then courseUntilFailure rest last ms way.tail p.fixture
      else courseAll last way.tail p.fixture)

/-- The methods of the lifecycle that run, if the choices of an execution are given. -/
def Lifecycle.course (l : Lifecycle σ) (way : List Nat) : Course σ :=
  courseUntilFailure [l.test] l.afters l.befores way l.fixture.fresh

namespace Course

/-- What the methods of the course leave in the trace. -/
def trace (c : Course σ) : List Trace := c.map fun step => .ran step.1.name

/-- The panic that leaves the course. -/
def panic? (c : Course σ) : Option Panic := c.findSome? fun step => step.2.panic?

/-- Nothing comes behind a method that a panic leaves. -/
def Orderly (c : Course σ) : Prop := ∀ ran more m p, c = ran ++ (m, p) :: more → p.returns = false → more = []

section Step

variable {m : TestMethod σ} {p : Passage σ}

theorem panic?_cons (c : Course σ) : panic? ((m, p) :: c) = p.panic?.or c.panic? := by
  rw [panic?, List.findSome?_cons]
  cases p.panic? <;> rfl

theorem step_of_returns (hp : p.returns) (behind : Course σ) : step m p behind = (m, p) :: behind := by
  rw [step, if_pos hp]

theorem step_of_panic {q : Panic} (hp : p.panic? = some q) (behind : Course σ) : step m p behind = [(m, p)] := by
  rw [step, if_neg]
  rw [← Passage.panic?_eq_none_iff, hp]
  exact Option.some_ne_none q

end Step

theorem orderly_nil : Orderly ([] : Course σ) := by
  rintro ran more m p h -
  cases ran <;> cases h

theorem Orderly.step {c : Course σ} (hc : c.Orderly) (m : TestMethod σ) (p : Passage σ) : (step m p c).Orderly := by
  rintro (_ | ⟨mp, ran⟩) more m' p' h hp'
  · obtain ⟨hhead, hmore⟩ := List.cons.inj h
    cases hhead
    rw [hp'] at hmore
    exact hmore.symm
  · obtain ⟨-, hbehind⟩ := List.cons.inj h
    cases hp : p.returns with
    | true =>
      rw [hp] at hbehind
      exact hc ran more m' p' hbehind hp'
    | false =>
      rw [hp] at hbehind
      exact absurd hbehind (by simp)

/-- A panic that leaves a method of an orderly course ends it, and leaves the course. -/
theorem Orderly.exists_append_of_mem {c : Course σ} (hc : c.Orderly) {m : TestMethod σ} {p : Passage σ} {q : Panic}
    (hmem : (m, p) ∈ c) (hp : p.panic? = some q) : c.panic? = some q ∧ ∃ ran, c = ran ++ [(m, p)] := by
  obtain ⟨ran, more, rfl⟩ := List.append_of_mem hmem
  have hreturns : p.returns = false := by
    rw [← Bool.not_eq_true, ← Passage.panic?_eq_none_iff, hp]
    exact Option.some_ne_none q
  obtain rfl : more = [] := hc ran more m p rfl hreturns
  have hran : ran.findSome? (fun step => step.2.panic?) = none := by
    rw [List.findSome?_eq_none_iff]
    rintro ⟨m', p'⟩ hmem'
    obtain ⟨before, behind, rfl⟩ := List.append_of_mem hmem'
    rw [Passage.panic?_eq_none_iff, ← Bool.not_eq_false]
    intro hp'
    have hbehind := hc before (behind ++ [(m, p)]) m' p' (by simp) hp'
    simp at hbehind
  refine ⟨?_, ran, rfl⟩
  rw [panic?, List.findSome?_append, hran, Option.none_or, List.findSome?_singleton]
  exact hp

end Course

theorem orderly_courseAll (ms : List (TestMethod σ)) (way : List Nat) (fixture : σ) :
    (courseAll ms way fixture).Orderly := by
  induction ms generalizing way fixture with
  | nil => exact Course.orderly_nil
  | cons m ms ih => exact (ih _ _).step _ _

theorem orderly_courseUntilFailure (rest last ms : List (TestMethod σ)) (way : List Nat) (fixture : σ) :
    (courseUntilFailure rest last ms way fixture).Orderly := by
  induction ms generalizing way fixture with
  | nil => exact orderly_courseAll _ way fixture
  | cons m ms ih =>
    refine Course.Orderly.step ?_ _ _
    split
    · exact ih _ _
    · exact orderly_courseAll _ _ _

/-- The course of a lifecycle ends with the first panic that leaves a method. -/
theorem Lifecycle.orderly_course (l : Lifecycle σ) (way : List Nat) : (l.course way).Orderly :=
  orderly_courseUntilFailure _ _ _ way _

/-! ## Runs -/

section Runs

variable {s : Session} (hs : s.Undisturbed)
include hs

/-- A panic that leaves the method leaves the run, too. -/
theorem Passage.run_outcome_of_panic {p : Passage σ} {q : Panic} (hp : p.panic? = some q) :
    ∃ t, (catching p.ending.outcome).run s = (.error q, t) ∧ t.trace = s.trace := by
  obtain ⟨hends, horigin⟩ := panic?_eq_some_iff.1 hp
  rw [hends, Ending.outcome, map_eq_pure_bind, catching_bind, run_catchPanic q hs.panicked]
  by_cases hthread : s.scheduler.exploring = true ∧ q.origin = .thread
  · rw [if_pos hthread]
    exact ⟨_, rfl, rfl⟩
  · have hscheduler : s.scheduler.exploring = true ∧ q.origin = .scheduler := by
      refine ⟨hs.exploring, ?_⟩
      cases horigin' : q.origin with
      | body => exact absurd horigin' horigin
      | scheduler => rfl
      | thread => exact absurd ⟨hs.exploring, horigin'⟩ hthread
    rw [if_neg hthread, if_pos hscheduler]
    exact ⟨_, rfl, rfl⟩

/-- A panic that leaves a method leaves the run behind the name of the method. -/
theorem TestMethod.run_invoke_of_panic {m : TestMethod σ} {fixture : σ} {q : Panic}
    (hp : (m.passage s.scheduler.choices fixture).panic? = some q) :
    ∃ t, (catching (m.invoke fixture)).run s = (.error q, t) ∧ t.trace = s.trace ++ [.ran m.name] := by
  obtain ⟨leaked, hrun⟩ := m.exists_run_invoke fixture s
  have hran : (s.ran m.name leaked).Undisturbed := ⟨hs.exploring, hs.panicked⟩
  obtain ⟨t, houtcome, htrace⟩ := Passage.run_outcome_of_panic hran hp
  refine ⟨t, ?_, htrace⟩
  rw [hrun, map_eq_pure_bind]
  exact catching_bind_of_error houtcome

/-- A method that returns leaves its name in the trace, and the fixture and the outcome of its passage. -/
theorem TestMethod.run_invoke_of_returns {m : TestMethod σ} {fixture : σ}
    (hp : (m.passage s.scheduler.choices fixture).returns) :
    ∃ o t, (catching (m.invoke fixture)).run s = (.ok ((m.passage s.scheduler.choices fixture).fixture, o), t) ∧
      (o = .ok () ↔ (m.passage s.scheduler.choices fixture).passes) ∧ t.Undisturbed ∧
      t.scheduler.choices = s.scheduler.choices.tail ∧ t.trace = s.trace ++ [.ran m.name] := by
  have hcalm : s.Calm := fun _ => hs.panicked
  obtain ⟨leaked, hrun⟩ := exists_run_invoke_of_calm hcalm fun _ => hp
  refine ⟨_, _, hrun, ?_, ⟨hs.exploring, hs.panicked⟩, rfl, rfl⟩
  rw [Outcome.ofFailure?_eq_ok_iff, failure?_eq_none_iff]
  rfl

end Runs

/-! ## Runs that follow a course -/

/-- Begun in the session, the action runs the methods of the course, and a panic leaves it exactly if it leaves the
course. -/
def Follows {α : Type} (x : Action α) (s : Session) (c : Course σ) : Prop :=
  ∃ r t, (catching x).run s = (r, t) ∧ t.trace = s.trace ++ c.trace ∧ ∀ q, r = .error q ↔ c.panic? = some q

section Follows

variable {α : Type} {s : Session}

theorem follows_pure (a : α) : Follows (pure a) s ([] : Course σ) :=
  ⟨_, _, rfl, (List.append_nil _).symm, fun _ => ⟨nofun, nofun⟩⟩

variable {c : Course σ}

/-- What is done with the value, without running methods, is of no account. -/
theorem Follows.map {β : Type} {x : Action α} (h : Follows x s c) (f : α → β) : Follows (f <$> x) s c := by
  obtain ⟨r, t, hrun, htrace, hpanic⟩ := h
  rw [Follows, map_eq_pure_bind, catching_bind, hrun]
  rcases r with q | a
  · exact ⟨_, _, rfl, htrace, fun q' => ⟨fun h => (hpanic q').1 (by cases h; rfl), fun h => by
      rw [← hpanic] at h; cases h; rfl⟩⟩
  · exact ⟨_, _, rfl, htrace, fun q' => ⟨nofun, fun h => by cases (hpanic q').2 h⟩⟩

/-- A quiet step that runs no method is of no account, either. -/
theorem Follows.bind_lift {β : Type} {q : Quiet β} {f : β → Action α} (hq : (q.run s).2.trace = s.trace)
    (h : Follows (f (q.run s).1) (q.run s).2 c) : Follows (liftM q >>= f) s c := by
  rw [Follows, catching_bind_lift, ← hq]
  exact h

/-- A method, and what follows it if the method returns. -/
theorem follows_invoke_bind {m : TestMethod σ} {fixture : σ} {f : σ × Outcome → Action α} (hs : s.Undisturbed)
    (hbehind : ∀ o t, (o = .ok () ↔ (m.passage s.scheduler.choices fixture).passes) → t.Undisturbed →
      t.scheduler.choices = s.scheduler.choices.tail →
      Follows (f ((m.passage s.scheduler.choices fixture).fixture, o)) t c) :
    Follows (m.invoke fixture >>= f) s (.step m (m.passage s.scheduler.choices fixture) c) := by
  cases hp : (m.passage s.scheduler.choices fixture).panic? with
  | some q =>
    obtain ⟨t, hrun, htrace⟩ := TestMethod.run_invoke_of_panic hs hp
    rw [Course.step_of_panic hp]
    refine ⟨_, t, catching_bind_of_error hrun, htrace, fun q' => ?_⟩
    rw [Course.panic?_cons, hp, Option.some_or, Except.error.injEq, Option.some.injEq]
  | none =>
    have hreturns := Passage.panic?_eq_none_iff.1 hp
    obtain ⟨o, t, hrun, hpasses, ht, hchoices, htrace⟩ := TestMethod.run_invoke_of_returns hs hreturns
    obtain ⟨r, u, hrest, hu, hpanic⟩ := hbehind o t hpasses ht hchoices
    rw [Course.step_of_returns hreturns]
    refine ⟨r, u, (catching_bind_of_ok hrun).trans hrest, ?_, fun q' => ?_⟩
    · rw [hu, htrace, List.append_assoc]
      rfl
    · rw [hpanic, Course.panic?_cons, hp, Option.none_or]

/-- Methods that run whether they fail or not follow their course. -/
theorem follows_invokeAll (ms : List (TestMethod σ)) (fixture : σ) (o : Outcome) (hs : s.Undisturbed) :
    Follows (invokeAll ms fixture o) s (courseAll ms s.scheduler.choices fixture) := by
  induction ms generalizing fixture o s with
  | nil => exact follows_pure _
  | cons m ms ih =>
    refine follows_invoke_bind hs fun o' t _ ht hchoices => ?_
    rw [← hchoices]
    exact ih _ _ ht

end Follows

/-- To hold an outcome against an expectation lets the scheduler alone. -/
theorem scheduler_run_meetExpectation (expected : Option Expectation) (o : Outcome) (s : Session) :
    ((meetExpectation expected o).run s).2.scheduler = s.scheduler := by
  rcases expected with _ | e
  · rfl
  · rcases o with f | _
    · rw [meetExpectation]
      split <;> rfl
    · rfl

namespace Lifecycle

variable {l : Lifecycle σ} {s : Session}

/-- A lifecycle without befores runs its test and the afters. -/
theorem runWith_of_befores_nil (h : l.befores = []) (fixture : σ) : l.runWith fixture =
    l.test.invoke fixture >>= fun r =>
      liftM (meetExpectation l.expected r.2) >>= fun o => invokeAll l.afters r.1 o := by
  rw [runWith, runToTest, h, invokeUntilFailure, pure_bind, bind_assoc]
  simp only [bind_assoc, pure_bind]

/-- A lifecycle runs its first before, and then the lifecycle without it or, if it has failed, the afters. -/
theorem runWith_of_befores_cons {m : TestMethod σ} {ms : List (TestMethod σ)} (h : l.befores = m :: ms)
    (fixture : σ) : l.runWith fixture = m.invoke fixture >>= fun r => match r.2 with
      | .ok () => { l with befores := ms }.runWith r.1
      | .error f => invokeAll l.afters r.1 (.error f) := by
  rw [runWith, runToTest, h, invokeUntilFailure, bind_assoc, bind_assoc]
  refine bind_congr fun r => ?_
  rcases r with ⟨fixture', f | _⟩
  · rfl
  · exact (bind_assoc (invokeUntilFailure ms fixture') _ _).symm

/-- A run on a fixture follows the course that the lifecycle takes from there. -/
theorem follows_runWith (hs : s.Undisturbed) {ms : List (TestMethod σ)} (h : l.befores = ms) (fixture : σ) :
    Follows (l.runWith fixture) s (courseUntilFailure [l.test] l.afters ms s.scheduler.choices fixture) := by
  -- a lifecycle goes on behind its first before as the lifecycle without it does
  induction ms generalizing l s fixture with
  | nil =>
    rw [runWith_of_befores_nil h]
    refine follows_invoke_bind hs fun o t _ ht hchoices => ?_
    have hscheduler := scheduler_run_meetExpectation l.expected o t
    refine .bind_lift (trace_run_meetExpectation l.expected o t) ?_
    rw [← hchoices, ← hscheduler]
    exact follows_invokeAll _ _ _ ⟨by rw [hscheduler, ht.exploring], by rw [hscheduler, ht.panicked]⟩
  | cons m ms ih =>
    rw [runWith_of_befores_cons h]
    refine follows_invoke_bind hs fun o t hpasses ht hchoices => ?_
    rw [← hchoices]
    rcases o with f | _
    · rw [if_neg (by simp [← hpasses])]
      exact follows_invokeAll _ _ _ ht
    · rw [if_pos (hpasses.1 rfl)]
      exact ih (l := { l with befores := ms }) ht rfl _

/-- **Runs follow courses.** An execution leaves in the trace the fixture and the methods of the course that its choices
give the lifecycle, and a panic leaves its run exactly if it leaves the course. -/
theorem follows_runOnce (l : Lifecycle σ) (hs : s.Undisturbed) : ∃ r t, (catching l.runOnce).run s = (r, t) ∧
    t.trace = s.trace ++ .built l.fixture.name :: (l.course s.scheduler.choices).trace ∧
    ∀ q, r = .error q ↔ (l.course s.scheduler.choices).panic? = some q := by
  let u : Session := { s with trace := s.trace ++ [.built l.fixture.name] }
  have hu : u.Undisturbed := ⟨hs.exploring, hs.panicked⟩
  obtain ⟨r, t, hrun, htrace, hpanic⟩ := (follows_runWith hu rfl l.fixture.fresh).map Prod.snd
  refine ⟨r, t, ?_, ?_, hpanic⟩
  · rw [runOnce, catching_bind_lift, ← map_eq_pure_bind]
    exact hrun
  · rw [htrace]
    exact List.append_assoc _ _ _

end Lifecycle

end Interleave
