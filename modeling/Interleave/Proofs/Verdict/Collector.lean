import Interleave.Primer
import Interleave.Proofs.Session.Actions

/-!
# What a collector keeps

- Of a list of observations, a collector keeps how many there are, the first failure and the first violation
  (`Collector.ofList_eq`).
- A collector that follows an engine keeps what it would keep of the list of all observations, and only logs
  (`Engine.run_observe`); so does a primer, once (`Primer.run_prime_of_not_isPrimed`).
- Nothing went wrong exactly if all observations are completed runs (`findSome?_eq_none_iff_completed`).
-/

namespace Interleave

namespace Observation

/-- Only a completed run is neither a failure nor a violation. -/
theorem eq_completed_iff {o : Observation} : o = .completed ↔ o.failure? = none ∧ o.violation? = none := by
  cases o <;> simp [failure?, violation?]

/-- No failure and no violation is observed exactly if all that is observed is completed runs. -/
theorem findSome?_eq_none_iff_completed {os : List Observation} :
    os.findSome? failure? = none ∧ os.findSome? violation? = none ↔ ∀ o ∈ os, o = .completed := by
  simp only [List.findSome?_eq_none_iff, eq_completed_iff]
  exact ⟨fun h o ho => ⟨h.1 o ho, h.2 o ho⟩, fun h => ⟨fun o ho => (h o ho).1, fun o ho => (h o ho).2⟩⟩

end Observation

namespace Collector

/-- What was kept first stays. -/
theorem foldl_add (c : Collector) (os : List Observation) : os.foldl add c =
    ⟨c.observations + os.length, c.exception.or (os.findSome? Observation.failure?),
      c.violation.or (os.findSome? Observation.violation?)⟩ := by
  induction os generalizing c with
  | nil => simp
  | cons o os ih =>
    rw [List.foldl_cons, ih]
    simp only [add, List.findSome?_cons, List.length_cons]
    cases o <;> cases c.exception <;> cases c.violation <;>
      simp [Observation.failure?, Observation.violation?] <;> omega

/-- A collector keeps the number of the observations, the first failure and the first violation. -/
theorem ofList_eq (os : List Observation) : ofList os =
    ⟨os.length, os.findSome? Observation.failure?, os.findSome? Observation.violation?⟩ := by
  rw [ofList, foldl_add]
  simp

/-- Taking observations in one by one logs each of them. -/
theorem run_foldlM_observe (c : Collector) (os : List Observation) (s : Session) :
    (os.foldlM observe c).run s = (os.foldl add c, s.logged (os.map Observation.record)) := by
  induction os generalizing c s with
  | nil => rw [List.map_nil, Session.logged_nil]; rfl
  | cons o os ih =>
    rw [List.foldlM_cons, run_bind]
    show (os.foldlM observe (c.add o)).run (s.logged [o.record]) = _
    rw [ih, Session.logged_logged]
    rfl

end Collector

namespace Engine

/-- The answer of an engine to a payload in a session, and the session that it leaves. -/
def reply (e : Engine) (p : Payload) (s : Session) : Answer × Session :=
  (e.answer (e.received s) p).run { s with deliveries := s.deliveries ++ [⟨e.id, p.tokens⟩] }

/-- Whoever follows an engine gets the observations of its answer, one by one. -/
theorem run_eq {ω : Type} (e : Engine) (observe : ω → Observation → Quiet ω) (start : ω) (p : Payload)
    (s : Session) : (e.run observe start p).run s =
      (do
        let seen ← (e.reply p s).1.observations.foldlM observe start
        (e.reply p s).1.closing.forM Session.record
        return (seen, (e.reply p s).1.ending) : Quiet (ω × EngineEnd)).run (e.reply p s).2 := rfl

/-- A collector that follows an engine takes in all that the engine observes, and logs it. -/
theorem run_observe (e : Engine) (p : Payload) (s : Session) :
    (e.run Collector.observe {} p).run s =
      ((.ofList (e.reply p s).1.observations, (e.reply p s).1.ending),
        (e.reply p s).2.logged ((e.reply p s).1.observations.map Observation.record ++ (e.reply p s).1.closing)) := by
  rw [run_eq, run_bind, Collector.run_foldlM_observe, run_bind, Session.run_forM_record, Session.logged_logged]
  rfl

end Engine

namespace Primer

variable {p : Primer} {s : Session}

/-- A primer that has done its work does nothing. -/
theorem run_prime_of_isPrimed (h : p.isPrimed s) (e : Engine) : (p.prime e).run s = ((), s) := by
  rw [prime, run_bind]
  show (if p.isPrimed s then pure () else _ : Quiet Unit).run s = _
  rw [if_pos h]
  rfl

/-- A primer that has not done its work sends a warm-up; the reply is logged, and the work is done. -/
theorem run_prime_of_not_isPrimed (h : ¬ p.isPrimed s) (e : Engine) :
    let r := e.reply .warmUp (s.logged [{ level := .debug, name := "priming checking engine" }])
    ∃ log, (p.prime e).run s = ((), { r.2.logged log with primed := r.2.primed ++ [p.id] }) := by
  intro r
  let told := r.1.observations.map Observation.record ++ r.1.closing
  refine ⟨told ++ [record r.1.ending], ?_⟩
  rw [← Session.logged_logged r.2 told, prime, run_bind]
  show (if p.isPrimed s then pure () else _ : Quiet Unit).run s = _
  rw [if_neg h, run_bind, Session.run_event, run_bind, Engine.run_observe]
  rfl

end Primer

end Interleave
