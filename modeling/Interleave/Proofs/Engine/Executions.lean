import Interleave.Engine.Explorer
import Interleave.Proofs.Session.Twins

/-!
# One execution after another

- The run of a lifecycle and the scheduler say how an execution ends (`Execution.Ends`), and the end is known from the
  panic that leaves the execution and from the failure that is left behind (`Execution.run_explore_of_ends`).
- Executions one behind the other lead to the end of the first one that does not pass (`Leads`), and this is where the
  scheduler stops (`Execution.run_exploreAll_of_leads`); the exploration draws its conclusion from there
  (`Scheduling.run_explore_of_leads`).
- The explorer answers a payload with that conclusion, if it can resolve it (`Explorer.run_answerUnder`).
-/

namespace Interleave

namespace Session

/-- The session in which an exploration begins. -/
def exploring (s : Session) : Session := { s with scheduler := { exploring := true } }

/-- The session in which an execution begins. -/
def onWay (s : Session) (way : List Nat) : Session :=
  { s with scheduler := { s.scheduler with choices := way, leaked := false } }

/-- The session in which no exploration is under way. -/
def atRest (s : Session) : Session := { s with scheduler := {} }

/-- The session after a panic was noted. -/
def noted (s : Session) (p : Panic) : Session :=
  if p.origin = .scheduler then { s with scheduler := { s.scheduler with panicked := true } } else s

end Session

theorem run_notePanic (p : Panic) (s : Session) : (notePanic p).run s = ((), s.noted p) := by
  rw [notePanic, Session.noted]
  split <;> rfl

/-! ## Steps of an execution -/

/-- The panic of a run that ends with an outcome. -/
def Outcome.panic? : Outcome → Option Panic
  | .ok () => none
  | .error _ => some ⟨.other, .body⟩

section Steps

variable {run : Action Outcome} {s t : Session}

/-- A run leaves its failure behind, unless one was left before. -/
theorem Findings.run_call_of_ok {o : Outcome} (h : (catching run).run s = (.ok o, t)) (found : Findings) :
    (found.call run).run s = ((o.panic?, ⟨true, found.captured.or o.failure?⟩), t) := by
  rw [call, run_bind, h]
  rcases o with f | _
  · rfl
  · show ((none, (⟨true, found.captured⟩ : Findings)), t) = _
    rw [Outcome.failure?, Option.or_none]
    rfl

/-- A run that panics leaves nothing behind. -/
theorem Findings.run_call_of_error {p : Panic} (h : (catching run).run s = (.error p, t)) (found : Findings) :
    (found.call run).run s = ((some p, ⟨true, found.captured⟩), t) := by
  rw [call, run_bind, h]
  rfl

namespace Execution

variable (e : Execution)

/-- Without an objection, an execution of a run that passed ends like that. -/
theorem run_close_none (h : e.closing s.scheduler = none) : (e.close none).run s = (none, s) := by
  rw [close, run_bind_get]
  simp only [h]
  rfl

/-- An objection of the scheduler is the panic with which an execution ends. -/
theorem run_close_none_of_objection {p : Panic} (h : e.closing s.scheduler = some p) :
    (e.close none).run s = (some p, s.noted p) := by
  rw [close, run_bind_get]
  simp only [h]
  rw [run_bind, run_notePanic]
  rfl

/-- An execution is the call of the run and what the scheduler makes of its end. -/
theorem run_explore_of_steps {found found' : Findings} {panic panic' : Option Panic} {u : Session}
    (hcall : (found.call run).run (s.onWay e.way) = ((panic, found'), t))
    (hclose : (e.close panic).run t = (panic', u)) : (e.explore run found).run s = ((panic', found'), u) := by
  rw [explore, run_bind_modify]
  show (found.call run >>= _ : Quiet _).run (s.onWay e.way) = _
  rw [run_bind, hcall]
  show (e.close panic >>= _ : Quiet _).run t = _
  rw [run_bind, hclose]
  rfl

end Execution

end Steps

/-! ## How executions end -/

/-- How an execution ends. -/
inductive Ended
  | passed
  | failed (f : Failure)
  | panicked (p : Panic)

/-- The failure that an execution leaves behind. -/
def Ended.failure? : Ended → Option Failure
  | failed f => some f
  | passed | panicked _ => none

namespace Execution

/-- The panic that leaves the execution of a run that a panic left. -/
def leaving (e : Execution) (p : Panic) : Panic := e.unwinding.elim p (⟨·, .scheduler⟩)

/-- The session behind an execution that a panic left: a panic of the scheduler on the way is noted. -/
def unwound (e : Execution) (s : Session) : Session := e.unwinding.elim s fun payload => s.noted ⟨payload, .scheduler⟩

theorem run_close_some (e : Execution) (p : Panic) (s : Session) :
    (e.close (some p)).run s = (some (e.leaving p), e.unwound s) := by
  rw [close, run_bind_get, leaving, unwound]
  cases e.unwinding with
  | none => rfl
  | some payload =>
    show (notePanic _ >>= _ : Quiet _).run s = _
    rw [run_bind, run_notePanic]
    rfl

/-- How an execution ends that begins in a session, and in which session: its run passes, fails or panics, and the
scheduler may have something to object to a run that passed. -/
inductive Ends (e : Execution) (run : Action Outcome) (s : Session) : Ended → Session → Prop
  | passed {t : Session} (hrun : (catching run).run (s.onWay e.way) = (.ok (.ok ()), t))
      (hclosing : e.closing t.scheduler = none) : Ends e run s .passed t
  | objected {t : Session} {p : Panic} (hrun : (catching run).run (s.onWay e.way) = (.ok (.ok ()), t))
      (hclosing : e.closing t.scheduler = some p) : Ends e run s (.panicked p) (t.noted p)
  | failed {t : Session} {f : Failure} (hrun : (catching run).run (s.onWay e.way) = (.ok (.error f), t)) :
      Ends e run s (.failed f) (e.unwound t)
  | panicked {t : Session} {p : Panic} (hrun : (catching run).run (s.onWay e.way) = (.error p, t)) :
      Ends e run s (.panicked (e.leaving p)) (e.unwound t)

variable {e : Execution} {run : Action Outcome} {s t : Session} {ended : Ended}

theorem exists_ends (e : Execution) (run : Action Outcome) (s : Session) : ∃ ended t, e.Ends run s ended t := by
  rcases h : (catching run).run (s.onWay e.way) with ⟨p | f | _, t⟩
  · exact ⟨_, _, .panicked h⟩
  · exact ⟨_, _, .failed h⟩
  · cases hclosing : e.closing t.scheduler with
    | none => exact ⟨_, _, .passed h hclosing⟩
    | some p => exact ⟨_, _, .objected h hclosing⟩

end Execution

/-- What leaves an execution that ended in some way: nothing if it passed, and the panic if it panicked. -/
def Ended.Leaves : Ended → Option Panic → Prop
  | passed, panic => panic = none
  | failed _, panic => panic ≠ none
  | panicked p, panic => panic = some p

/-- Whatever does not pass ends in a panic. -/
theorem Ended.Leaves.exists_eq_some {ended : Ended} {panic : Option Panic} (h : ended.Leaves panic)
    (hbad : ended ≠ .passed) : ∃ p, panic = some p := by
  cases ended with
  | passed => exact absurd rfl hbad
  | failed f => exact Option.ne_none_iff_exists'.1 h
  | panicked p => exact ⟨p, h⟩

/-- What an execution leaves behind says how it ended. -/
theorem Execution.run_explore_of_ends {e : Execution} {run : Action Outcome} {s t : Session} {ended : Ended}
    (h : e.Ends run s ended t) (found : Findings) : ∃ panic, ended.Leaves panic ∧
      (e.explore run found).run s = ((panic, ⟨true, found.captured.or ended.failure?⟩), t) := by
  cases h with
  | passed hrun hclosing =>
    exact ⟨none, rfl, run_explore_of_steps e (Findings.run_call_of_ok hrun found) (run_close_none e hclosing)⟩
  | objected hrun hclosing =>
    exact ⟨_, rfl,
      run_explore_of_steps e (Findings.run_call_of_ok hrun found) (run_close_none_of_objection e hclosing)⟩
  | failed hrun =>
    exact ⟨_, Option.some_ne_none _,
      run_explore_of_steps e (Findings.run_call_of_ok hrun found) (run_close_some e _ _)⟩
  | panicked hrun =>
    refine ⟨_, rfl, ?_⟩
    have h := run_explore_of_steps e (Findings.run_call_of_error hrun found) (run_close_some e _ _)
    rwa [Ended.failure?, Option.or_none]

/-! ## One behind the other -/

/-- Where executions lead that begin one behind the other, the first in a session: to the end of the first one that does
not pass, if there is one. -/
inductive Leads (run : Action Outcome) : Session → List Execution → Ended → Session → Prop
  | nil (s : Session) : Leads run s [] .passed s
  | stop {s t : Session} {e : Execution} {ended : Ended} (h : e.Ends run s ended t) (hbad : ended ≠ .passed)
      (es : List Execution) : Leads run s (e :: es) ended t
  | next {s t u : Session} {e : Execution} {es : List Execution} {ended : Ended} (h : e.Ends run s .passed t)
      (hes : Leads run t es ended u) : Leads run s (e :: es) ended u

theorem exists_leads (run : Action Outcome) (s : Session) (es : List Execution) :
    ∃ ended t, Leads run s es ended t := by
  induction es generalizing s with
  | nil => exact ⟨_, _, .nil s⟩
  | cons e es ih =>
    obtain ⟨ended, t, h⟩ := e.exists_ends run s
    by_cases hbad : ended = .passed
    · subst hbad
      obtain ⟨ended, u, hes⟩ := ih t
      exact ⟨ended, u, .next h hes⟩
    · exact ⟨ended, t, .stop h hbad es⟩

section Leads

variable {run : Action Outcome} {s t : Session} {es : List Execution} {ended : Ended}

/-- The scheduler stops at the first execution that does not pass. -/
theorem Execution.run_exploreAll_of_leads (h : Leads run s es ended t) (found : Findings) :
    ∃ panic, ended.Leaves panic ∧ (exploreAll run es found).run s =
      ((panic, ⟨found.started || !es.isEmpty, found.captured.or ended.failure?⟩), t) := by
  induction h generalizing found with
  | nil s =>
    refine ⟨none, rfl, ?_⟩
    rw [Ended.failure?, Option.or_none, List.isEmpty_nil, Bool.not_true, Bool.or_false]
    rfl
  | @stop s t e ended h hbad es =>
    obtain ⟨panic, hpanic, hrun⟩ := run_explore_of_ends h found
    refine ⟨panic, hpanic, ?_⟩
    obtain ⟨p, rfl⟩ := hpanic.exists_eq_some hbad
    rw [exploreAll, run_bind, hrun, List.isEmpty_cons, Bool.not_false, Bool.or_true]
    rfl
  | @next s t u e es ended h hes ih =>
    obtain ⟨panic, hpanic, hrun⟩ := run_explore_of_ends h found
    obtain rfl : panic = none := hpanic
    obtain ⟨panic, hpanic, hrest⟩ := ih ⟨true, found.captured.or Ended.passed.failure?⟩
    refine ⟨panic, hpanic, ?_⟩
    rw [Ended.failure?, Option.or_none] at hrun hrest
    rw [exploreAll, run_bind, hrun, List.isEmpty_cons, Bool.not_false, Bool.or_true]
    exact hrest

/-- An exploration draws its conclusion from the end of the first execution that does not pass, and from what the
scheduler has noted. -/
theorem Scheduling.run_explore_of_leads (h : Leads run s.exploring es ended t) :
    ∃ panic, ended.Leaves panic ∧ ((runs es).explore run).run s =
      (Evidence.exploration ⟨panic.map Panic.payload, ended.failure?, !es.isEmpty, t.scheduler.panicked⟩).run
        t.atRest := by
  obtain ⟨panic, hpanic, hrun⟩ := Execution.run_exploreAll_of_leads h {}
  refine ⟨panic, hpanic, ?_⟩
  rw [explore, run_bind_modify, check]
  show (Execution.exploreAll run es {} >>= _ : Quiet _).run s.exploring = _
  rw [run_bind, hrun, Bool.false_or]
  rfl

theorem Scheduling.run_explore_of_leads_passed (h : Leads run s.exploring es .passed t) :
    ((runs es).explore run).run s = (.completed, t.atRest) := by
  obtain ⟨panic, hpanic, hrun⟩ := run_explore_of_leads h
  obtain rfl : panic = none := hpanic
  exact hrun

theorem Scheduling.run_explore_of_leads_failed {f : Failure} (h : Leads run s.exploring es (.failed f) t) :
    ((runs es).explore run).run s = (.failed f, t.atRest) := by
  obtain ⟨panic, -, hrun⟩ := run_explore_of_leads h
  exact hrun

/-- The failure counts, though the scheduler panics while the execution unwinds. -/
example (f : Failure) (s : Session) :
    ((Scheduling.runs [{ unwinding := some (.text Scheduler.deadlockText) }]).explore (pure (.error f))).run s =
      (.failed f, s.atRest) := rfl

end Leads

/-! ## Answers -/

/-- The answer that reports what an exploration found. -/
def Exploration.answer : Exploration → Answer
  | .completed => { observations := [.completed] }
  | .failed f => { observations := [.thrown f] }
  | .violated d => { observations := [.violated d] }
  | .aborted reason => .failed (.aborted reason)

namespace Explorer

variable {σ : Type} {x : Explorer σ} (search : Option (Lifecycle σ) → Scheduling) {p : Payload}

/-- A payload that cannot be read is answered with an error. -/
theorem run_answerUnder_of_read_error {e : PayloadError} (h : Arguments.read p.tokens = .error e) (s : Session) :
    ((x.answerUnder search p).run s).1 = .failed (.payload e) := by
  rw [answerUnder]
  simp only [h]
  rfl

variable {a : Arguments} (ha : Arguments.read p.tokens = .ok a) {s : Session}
include ha

/-- A payload that cannot be resolved is answered with an error. -/
theorem run_answerUnder_of_resolve_error {e : EngineError} (h : x.resolve s.catalogue a = .error e) :
    ((x.answerUnder search p).run s).1 = .failed e := by
  rw [answerUnder]
  simp only [ha]
  rw [run_bind, Session.run_span, run_bind_get, Session.catalogue_logged, h]
  rfl

/-- A payload that can be resolved is answered with what an exploration finds. -/
theorem run_answerUnder {l : Option (Lifecycle σ)} (hl : x.resolve s.catalogue a = .ok l) :
    ∃ log, (x.answerUnder search p).run s =
      ((((search l).explore (runWithin x.bounds l)).run (s.logged log)).1.answer,
        (((search l).explore (runWithin x.bounds l)).run (s.logged log)).2) := by
  let r : Record :=
    { span := true, level := .info, name := "explore",
      fields := [("class", a.testClass.getD ""), ("method", (a.test.map TestSpec.method).getD "")] }
  let r' : Record := { level := .debug, name := "starting exploration", fields := [("payload", p.text)] }
  refine ⟨[r] ++ [r'], ?_⟩
  rw [answerUnder]
  simp only [ha]
  rw [run_bind, Session.run_span, run_bind_get, Session.catalogue_logged, hl]
  dsimp only
  rw [run_bind, Session.run_event, Session.logged_logged]
  dsimp only
  rw [run_bind]
  rcases (((search l).explore (runWithin x.bounds l)).run (s.logged ([r] ++ [r']))).1 with _ | _ | _ | _ <;> rfl

end Explorer

end Interleave
