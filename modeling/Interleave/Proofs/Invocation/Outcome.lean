import Interleave.Invocation
import Interleave.Proofs.Payload.RoundTrip
import Interleave.Proofs.Verdict.Collector

/-!
# What an invocation ends with

- `Answer.outcome`: what an answer of an engine means for the test: its ending decides, then whether anything was
  observed, then the first failure, then the first violation;
- an invocation ends with what the engine's reply to the built payload means, or with the error that kept the
  payload from being built (`Invocation.run_eq`);
- so each way for an invocation to end has its own reason, and no other way has the same
  (`Invocation.run_classifies`).
-/

namespace Interleave

/-! ## Answers -/

namespace Answer

variable (a : Answer) (id : Nat)

/-- What an answer means for the test that was checked; a failure that stands for a violation has the given
identity. -/
def outcome : Except Panic Invoked :=
  match a.ending with
  | .panicked p => .error ⟨p, .body⟩
  | .failed e => .ok (.error (.engine e))
  | .done =>
    if a.observations.isEmpty then .ok (.error (.engine .noObservations))
    else match a.observations.findSome? Observation.failure?, a.observations.findSome? Observation.violation? with
      | some f, _ => .ok (.error (.testFailed f))
      | none, some d => .ok (.error (.testFailed ⟨id, (Fault.unattributed d).typeName, .unattributed d⟩))
      | none, none => .ok (.ok ())

/-- What a collector concludes from an answer is what the answer means. -/
theorem run_conclude (s : Session) : ∃ n, (catching (Invocation.conclude (.ofList a.observations) a.ending)).run s =
    (a.outcome s.nextFailure, { s with nextFailure := n }) := by
  obtain ⟨os, closing, ending⟩ := a
  cases ending with
  | panicked p => exact ⟨s.nextFailure, rfl⟩
  | failed e => exact ⟨s.nextFailure, rfl⟩
  | done =>
    rw [Collector.ofList_eq, outcome, Invocation.conclude, Collector.finish]
    cases os with
    | nil => exact ⟨s.nextFailure, rfl⟩
    | cons o os =>
      simp only [List.length_cons, Nat.add_one_ne_zero, if_false, List.isEmpty_cons, Bool.false_eq_true]
      cases (o :: os).findSome? Observation.failure? with
      | some f => exact ⟨s.nextFailure, rfl⟩
      | none =>
        cases (o :: os).findSome? Observation.violation? with
        | some d => exact ⟨s.nextFailure + 1, rfl⟩
        | none => exact ⟨s.nextFailure, rfl⟩

/-- To draw a conclusion takes no identity back. -/
theorem next_le_conclude (c : Collector) (e : EngineEnd) (s : Session) :
    s.nextFailure ≤ ((catching (Invocation.conclude c e)).run s).2.nextFailure := by
  cases e with
  | panicked p => exact Nat.le_refl _
  | failed e => exact Nat.le_refl _
  | done =>
    rw [Invocation.conclude]
    cases c.finish with
    | error e => exact Nat.le_refl _
    | ok v =>
      obtain ⟨_ | _, _ | f, violation⟩ := v
      · exact Nat.le_succ _
      · exact Nat.le_refl _
      · exact Nat.le_refl _
      · exact Nat.le_refl _

/-- An answer is a panic exactly if the engine panicked. -/
theorem outcome_eq_panic_iff {p : Panic} :
    a.outcome id = .error p ↔ ∃ q, a.ending = .panicked q ∧ p = ⟨q, .body⟩ := by
  rw [outcome]
  cases a.ending with
  | panicked q => simp [eq_comm]
  | failed e => simp
  | done =>
    simp only [reduceCtorEq, false_and, exists_false, iff_false]
    split
    · simp
    · split <;> simp

/-- An answer never says that the request does not fit. -/
theorem outcome_ne_configuration (e : ConfigurationError) : a.outcome id ≠ .ok (.error (.configuration e)) := by
  rw [outcome]
  split
  · simp
  · simp
  · split
    · simp
    · split <;> simp

/-- An answer is an error of the engine exactly if the engine failed, or ended without having observed anything. -/
theorem outcome_eq_engine_iff {e : EngineError} : a.outcome id = .ok (.error (.engine e)) ↔
    a.ending = .failed e ∨ a.ending = .done ∧ a.observations = [] ∧ e = .noObservations := by
  rw [outcome]
  cases a.ending with
  | panicked q => simp
  | failed e => simp
  | done =>
    simp only [List.isEmpty_iff, reduceCtorEq, false_or, true_and]
    split
    · rename_i hos
      simp [hos, eq_comm]
    · rename_i hos
      simp only [hos, false_and, iff_false]
      split <;> simp

/-- An answer passes the test exactly if the engine ended well and observed completed runs, at least one. -/
theorem outcome_eq_ok_iff : a.outcome id = .ok (.ok ()) ↔
    a.ending = .done ∧ a.observations ≠ [] ∧ ∀ o ∈ a.observations, o = .completed := by
  rw [outcome, ← Observation.findSome?_eq_none_iff_completed]
  cases a.ending with
  | panicked q => simp
  | failed e => simp
  | done =>
    simp only [List.isEmpty_iff, ne_eq, true_and]
    split
    · rename_i hos
      simp [hos]
    · rename_i hos
      cases a.observations.findSome? Observation.failure? <;>
        cases a.observations.findSome? Observation.violation? <;> simp [hos]

/-- An answer fails the test exactly if the engine ended well and observed a failure or a violation; the first
failure decides, and the first violation only without one. -/
theorem outcome_eq_testFailed_iff {f : Failure} : a.outcome id = .ok (.error (.testFailed f)) ↔
    a.ending = .done ∧ (a.observations.findSome? Observation.failure? = some f ∨
      a.observations.findSome? Observation.failure? = none ∧
        ∃ d, a.observations.findSome? Observation.violation? = some d ∧
          f = ⟨id, (Fault.unattributed d).typeName, .unattributed d⟩) := by
  rw [outcome]
  cases a.ending with
  | panicked q => simp
  | failed e => simp
  | done =>
    simp only [List.isEmpty_iff, true_and]
    split
    · rename_i hos
      simp [hos]
    · cases a.observations.findSome? Observation.failure? <;>
        cases a.observations.findSome? Observation.violation? <;> simp [eq_comm]

end Answer

/-! ## Invocations -/

namespace Invocation

variable {σ : Type} (i : Invocation) (c : TestClass σ) (test : Descriptor) (befores afters : List Descriptor)
  (expected : Option Expectation)

/-- The session in which the payload of a request is built, with the engine warmed up. -/
def prepared (s : Session) : Session :=
  ((i.primer.prime i.engine).run (s.logged
    [{ span := true, level := .info, name := "checked_invocation",
       fields := [("class", test.className), ("method", test.name)] }])).2

/-- What is logged before a payload is sent. -/
def launch (p : Payload) : Record :=
  { level := .debug, name := "launching checking engine", fields := [("payload", p.text)] }

/-- The reply of the engine to the payload of a request, if the payload can be built. -/
def reply (s : Session) : Except ConfigurationError (Answer × Session) :=
  match (Payload.build c test befores afters expected).run (i.prepared test s) with
  | (.error e, _) => .error e
  | (.ok p, t) => .ok (i.engine.reply p (t.logged [launch p]))

/-- The reply is an error exactly if the request does not fit the class. -/
theorem reply_eq_error_iff (s : Session) {e : ConfigurationError} :
    i.reply c test befores afters expected s = .error e ↔ c.validate test befores afters = .error e := by
  rw [reply, Payload.run_build]
  cases c.validate test befores afters <;> simp

/-- The engine replies exactly if the request fits the class. -/
theorem exists_reply_iff (s : Session) :
    (∃ r, i.reply c test befores afters expected s = .ok r) ↔ c.validate test befores afters = .ok () := by
  rw [reply, Payload.run_build]
  cases c.validate test befores afters <;> simp

/-- An invocation builds the payload in the session that is prepared for it. -/
theorem run_eq (s : Session) : (catching (i.run c test befores afters expected)).run s =
    match (Payload.build c test befores afters expected).run (i.prepared test s) with
    | (.error e, t) => (.ok (.error (.configuration e)), t)
    | (.ok p, t) =>
      let a := i.engine.reply p (t.logged [launch p])
      (catching (conclude (.ofList a.1.observations) a.1.ending)).run
        (a.2.logged (a.1.observations.map Observation.record ++ a.1.closing)) := by
  rw [run, catching_bind_lift, Session.run_span, catching_bind_lift, ← prepared, catching_bind_lift]
  rcases (Payload.build c test befores afters expected).run (i.prepared test s) with ⟨e | p, t⟩
  · rfl
  · dsimp only
    rw [catching_bind_lift, Session.run_event, catching_bind_lift, Engine.run_observe]
    rfl

/-- A request that does not fit the class is a configuration error. -/
theorem run_of_reply_eq_error {s : Session} {e : ConfigurationError}
    (h : i.reply c test befores afters expected s = .error e) :
    ((catching (i.run c test befores afters expected)).run s).1 = .ok (.error (.configuration e)) := by
  rw [reply] at h
  rw [run_eq]
  rcases hb : (Payload.build c test befores afters expected).run (i.prepared test s) with ⟨e' | p, t⟩
  · rw [hb] at h
    cases h
    rfl
  · rw [hb] at h
    cases h

/-- An invocation ends with what the reply of the engine means. -/
theorem run_of_reply_eq_ok {s t : Session} {a : Answer}
    (h : i.reply c test befores afters expected s = .ok (a, t)) :
    ∃ n, (catching (i.run c test befores afters expected)).run s = (a.outcome t.nextFailure,
      { t.logged (a.observations.map Observation.record ++ a.closing) with nextFailure := n }) := by
  rw [reply] at h
  rw [run_eq]
  rcases hb : (Payload.build c test befores afters expected).run (i.prepared test s) with ⟨e | p, u⟩
  · rw [hb] at h
    cases h
  · rw [hb] at h
    have hr : i.engine.reply p (u.logged [launch p]) = (a, t) := Except.ok.inj h
    simp only [hr]
    exact a.run_conclude _

/-- An invocation takes no identity back that was given away when the engine had replied. -/
theorem next_le_of_reply_eq_ok {s t : Session} {a : Answer}
    (h : i.reply c test befores afters expected s = .ok (a, t)) :
    t.nextFailure ≤ ((catching (i.run c test befores afters expected)).run s).2.nextFailure := by
  rw [reply] at h
  rw [run_eq]
  rcases hb : (Payload.build c test befores afters expected).run (i.prepared test s) with ⟨e | p, u⟩
  · rw [hb] at h
    cases h
  · rw [hb] at h
    have hr : i.engine.reply p (u.logged [launch p]) = (a, t) := Except.ok.inj h
    simp only [hr]
    exact Answer.next_le_conclude _ _ (t.logged _)

/-- An invocation does not end with what no reply means. -/
theorem run_eq_iff {s : Session} {r : Except Panic Invoked} (hr : ∀ e, r ≠ .ok (.error (.configuration e))) :
    ((catching (i.run c test befores afters expected)).run s).1 = r ↔
      ∃ a t, i.reply c test befores afters expected s = .ok (a, t) ∧ a.outcome t.nextFailure = r := by
  rcases h : i.reply c test befores afters expected s with e | ⟨a, t⟩
  · rw [i.run_of_reply_eq_error c test befores afters expected h]
    simp [(hr e).symm]
  · obtain ⟨n, hn⟩ := i.run_of_reply_eq_ok c test befores afters expected h
    rw [hn]
    constructor
    · intro ha
      exact ⟨a, t, rfl, ha⟩
    · rintro ⟨_, _, h', ha⟩
      cases h'
      exact ha

/-- **Verdicts.** An invocation ends with a configuration error exactly if the request does not fit the class. For
all other requests there is a reply of the engine, and the invocation ends

- with an error of the engine exactly if the engine failed with it, or if it ended well and observed nothing;
- with a pass exactly if the engine ended well and observed completed runs only, and at least one;
- with a failed test exactly if the engine ended well and observed the failure, before any other failure, or if it
  observed no failure and the failure stands for the first violation that it observed;
- with a panic exactly if the engine panicked. -/
theorem run_classifies (s : Session) :
    let result := ((catching (i.run c test befores afters expected)).run s).1
    let reply := i.reply c test befores afters expected s
    (∀ e, result = .ok (.error (.configuration e)) ↔ c.validate test befores afters = .error e) ∧
    ((∃ r, reply = .ok r) ↔ c.validate test befores afters = .ok ()) ∧
    (∀ e, result = .ok (.error (.engine e)) ↔ ∃ a t, reply = .ok (a, t) ∧
      (a.ending = .failed e ∨ a.ending = .done ∧ a.observations = [] ∧ e = .noObservations)) ∧
    (result = .ok (.ok ()) ↔ ∃ a t, reply = .ok (a, t) ∧
      a.ending = .done ∧ a.observations ≠ [] ∧ ∀ o ∈ a.observations, o = .completed) ∧
    (∀ f, result = .ok (.error (.testFailed f)) ↔ ∃ a t, reply = .ok (a, t) ∧
      a.ending = .done ∧ (a.observations.findSome? Observation.failure? = some f ∨
        a.observations.findSome? Observation.failure? = none ∧
          ∃ d, a.observations.findSome? Observation.violation? = some d ∧
            f = ⟨t.nextFailure, (Fault.unattributed d).typeName, .unattributed d⟩)) ∧
    (∀ p, result = .error p ↔ ∃ a t, reply = .ok (a, t) ∧ ∃ q, a.ending = .panicked q ∧ p = ⟨q, .body⟩) := by
  intro result reply
  refine ⟨fun e => ?_, i.exists_reply_iff c test befores afters expected s, fun e => ?_, ?_, fun f => ?_,
    fun p => ?_⟩
  · rw [← i.reply_eq_error_iff c test befores afters expected s]
    constructor
    · intro he
      rcases h : i.reply c test befores afters expected s with e' | ⟨a, t⟩
      · have hrun := i.run_of_reply_eq_error c test befores afters expected h
        rw [show result = _ from hrun] at he
        cases he
        rfl
      · obtain ⟨n, hn⟩ := i.run_of_reply_eq_ok c test befores afters expected h
        rw [show result = _ from congrArg Prod.fst hn] at he
        exact absurd he (a.outcome_ne_configuration _ e)
    · exact i.run_of_reply_eq_error c test befores afters expected
  · rw [run_eq_iff _ _ _ _ _ _ (by simp)]
    simp only [Answer.outcome_eq_engine_iff]
    rfl
  · rw [run_eq_iff _ _ _ _ _ _ (by simp)]
    simp only [Answer.outcome_eq_ok_iff]
    rfl
  · rw [run_eq_iff _ _ _ _ _ _ (by simp)]
    simp only [Answer.outcome_eq_testFailed_iff]
    rfl
  · rw [run_eq_iff _ _ _ _ _ _ (by simp)]
    simp only [Answer.outcome_eq_panic_iff]
    rfl

end Invocation

end Interleave
