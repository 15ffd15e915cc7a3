import Interleave.Engine.Explorer
import Interleave.Primer
import Interleave.Proofs.Engine.Executions
import Interleave.Proofs.Lifecycle.Threadless
import Interleave.Proofs.Verdict.Collector

/-!
# Explorations with one execution

Within bounds that let it start (`Bounds.Startable`), an exploration of a lifecycle without threads is one run of
it.

- The scheduler has nothing to object to the run (`leads_of_goes`), so the exploration finds what the run ends with,
  and leaves the scheduler at rest (`run_explore`, `Explorer.run_explore_some`).
- A warm-up explores nothing: no failure is raised by it and no body runs (`Explorer.run_prime`).
-/

namespace Interleave

variable {σ : Type}

/-- Bounds within which an exploration starts and an execution may make choices. -/
structure Bounds.Startable (b : Bounds) : Prop where
  preemptions : ∀ n ∈ b.preemptionBound, n ≤ 255
  branches_pos : 0 < b.maxBranches
  branches_lt : b.maxBranches < Nat.pow 2 60

theorem Bounds.Startable.refusal_eq_none {b : Bounds} (hb : b.Startable) : b.refusal = none := by
  rw [refusal, if_neg, if_neg (Nat.not_le.2 hb.branches_lt)]
  cases hp : b.preemptionBound with
  | none => simp
  | some n => simpa using hb.preemptions n hp

theorem Bounds.Startable.within {b : Bounds} (hb : b.Startable) (l : Lifecycle σ) : l.within b = l := by
  rw [Lifecycle.within, if_neg (Nat.ne_of_gt hb.branches_pos)]

/-- What an exploration found whose only execution ends with an outcome. -/
def Outcome.exploration : Outcome → Exploration
  | .ok () => .completed
  | .error f => .failed f

/-- The end of an execution whose run ends with an outcome to which the scheduler has nothing to object. -/
def Outcome.ended : Outcome → Ended
  | .ok () => .passed
  | .error f => .failed f

/-- The session after an exploration: failures were raised and bodies ran, and the scheduler is at rest. -/
def Session.explored (s : Session) (next : Nat) (ts : List Trace) : Session :=
  { s with nextFailure := next, trace := s.trace ++ ts, scheduler := {} }

section Execution

variable {bounds : Bounds} (hb : bounds.Startable) {run : Action Outcome} {o : Outcome} {n n' k : Nat}
  {ts : List Trace} (h : Goes run n o n' ts k)
include hb h

/-- An execution of a run that goes some way leads where the run does: the scheduler has nothing to object. -/
theorem leads_of_goes (way : List Nat) {s : Session} (hs : s.Calm) (hn : s.nextFailure = n) :
    Leads run s [{ way, closing := bounds.objection }] o.ended ((s.onWay way).passed n' ts k) := by
  have hrun : (catching run).run (s.onWay way) = (.ok o, (s.onWay way).passed n' ts k) := h (s.onWay way) hs hn
  have hobjection : bounds.objection ((s.onWay way).passed n' ts k).scheduler = none := by
    rw [Bounds.objection, if_neg, if_neg (Nat.ne_of_gt hb.branches_pos)]
    exact Bool.false_ne_true
  rcases o with f | _
  · exact .stop (.failed hrun) nofun []
  · exact .next (.passed hrun hobjection) (.nil _)

/-- An exploration of one execution finds what the run ends with, and leaves the scheduler at rest. -/
theorem run_explore (way : List Nat) {s : Session} (hn : s.nextFailure = n) :
    ((Scheduling.runs [{ way, closing := bounds.objection }]).explore run).run s =
      (o.exploration, s.explored n' ts) := by
  -- the session is calm though an exploration is under way, as the scheduler has not panicked in it
  have hleads := leads_of_goes hb h way (s := s.exploring) (fun _ => rfl) hn
  rcases o with f | _
  · exact Scheduling.run_explore_of_leads_failed hleads
  · exact Scheduling.run_explore_of_leads_passed hleads

end Execution

namespace Explorer

variable {x : Explorer σ}

/-- A warm-up finds nothing and changes nothing but the log and the scheduler, which it leaves at rest. -/
theorem run_explore_none (hb : x.bounds.Startable) (s : Session) :
    (x.explore none).run s = (.completed, s.explored s.nextFailure []) := by
  have hgo : Goes (runWithin x.bounds (none : Option (Lifecycle σ))) s.nextFailure (.ok ()) s.nextFailure [] 0 :=
    goes_pure _ _
  rw [explore, Bounds.search, hb.refusal_eq_none]
  exact run_explore hb hgo [] rfl

/-- An exploration of a lifecycle of bodies without threads finds what one run of the lifecycle ends with. -/
theorem run_explore_some (hb : x.bounds.Startable) {l : Lifecycle σ} (hl : l.Threadless) {o : Outcome}
    {n n' k : Nat} {ts : List Trace} (h : Goes l.runOnce n o n' ts k) {s : Session} (hn : s.nextFailure = n) :
    (x.explore (some l)).run s = (o.exploration, s.explored n' ts) := by
  obtain ⟨way, hway⟩ := l.exists_ways_eq hl
  have hgo : Goes (runWithin x.bounds (some l)) n o n' ts k := by
    rw [runWithin, hb.within]
    exact h
  rw [explore, Bounds.search, hb.refusal_eq_none]
  simp only [hb.within, hway, List.map_cons, List.map_nil]
  exact run_explore hb hgo way hn

/-- An explorer answers a payload that it can resolve with what it finds exploring it. -/
theorem run_answer {p : Payload} {a : Arguments} (ha : Arguments.read p.tokens = .ok a) {s : Session}
    {l : Option (Lifecycle σ)} (hl : x.resolve s.catalogue a = .ok l) :
    ∃ log, (x.answer p).run s =
      (((x.explore l).run (s.logged log)).1.answer, ((x.explore l).run (s.logged log)).2) :=
  run_answerUnder x.bounds.search ha hl

/-- A warm-up raises no failure, runs no body and leaves the scheduler at rest. -/
theorem run_answer_warmUp (hb : x.bounds.Startable) (s : Session) :
    ∃ log, (x.answer .warmUp).run s =
      ({ observations := [.completed] }, (s.logged log).explored s.nextFailure []) := by
  obtain ⟨log, h⟩ := x.run_answer (p := .warmUp) (a := {}) rfl (s := s) (l := none) rfl
  refine ⟨log, ?_⟩
  rw [h, run_explore_none hb]
  rfl

/-- Warming an explorer up raises no failure and runs no body. -/
theorem run_prime (hb : x.bounds.Startable) (primer : Primer) (id : Nat) (s : Session) :
    let t := ((primer.prime (x.engine id)).run s).2
    t.nextFailure = s.nextFailure ∧ t.trace = s.trace := by
  by_cases hprimed : primer.isPrimed s
  · rw [Primer.run_prime_of_isPrimed hprimed]
    exact ⟨rfl, rfl⟩
  · obtain ⟨log, hrun⟩ := Primer.run_prime_of_not_isPrimed hprimed (x.engine id)
    let u := s.logged [{ level := .debug, name := "priming checking engine" }]
    let v : Session := { u with deliveries := u.deliveries ++ [⟨id, Payload.warmUp.tokens⟩] }
    obtain ⟨log', h⟩ := x.run_answer_warmUp hb v
    have hreply : (x.engine id).reply .warmUp u = _ := h
    rw [hrun, hreply]
    exact ⟨rfl, List.append_nil _⟩

end Explorer

end Interleave
