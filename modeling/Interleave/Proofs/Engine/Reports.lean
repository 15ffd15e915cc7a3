import Interleave.Proofs.Engine.Executions
import Interleave.Proofs.Lifecycle.Twins

/-!
# What an exploration reports

Nothing is assumed of a scheduler but that it panics before any execution, or goes through executions and stops at the
first one that a panic leaves.

- How an execution ends does not depend on the session, nor on the executions before it
  (`Execution.Ends.exists_counterpart`), and a panic of the scheduler is noted exactly if it ends an execution
  (`Execution.Ends.undisturbed`, `Execution.Ends.noted`).
- So executions lead to the end of the first one that does not pass (`Leads.exists_ends_of_stopsAt`), if there is one
  (`Leads.eq_passed_iff`), and this is what is observed (`Scheduling.run_explore_answer`).
- An explorer observes this one thing, or ends with an error (`Explorer.answerUnder_reports`), and does so alike in
  all sessions in which the payload is resolved to the same (`Explorer.answers_counterparts`). It leaves nothing of the
  exploration behind but what is new in the session (`Explorer.onward_answerUnder`).
-/

namespace Interleave

/-! ## Executions in two sessions -/

namespace Session

theorem undisturbed_exploring (s : Session) : s.exploring.Undisturbed := ⟨rfl, rfl⟩

/-- Executions begin with the scheduler in one state. -/
theorem Undisturbed.scheduler_onWay {s : Session} (h : s.Undisturbed) (way : List Nat) :
    (s.onWay way).scheduler = { exploring := true, choices := way } := by
  simp only [onWay, h.exploring, h.panicked]

/-- To note a panic takes nothing back. -/
theorem onward_noted (s : Session) (p : Panic) : s.Onward (s.noted p) := by
  rw [noted]
  split
  · exact .withScheduler s _
  · exact .refl s

theorem panicked_noted (s : Session) (p : Panic) :
    (s.noted p).scheduler.panicked = true ↔ s.scheduler.panicked = true ∨ p.origin = .scheduler := by
  rw [noted]
  split
  · rename_i h
    simp [h]
  · rename_i h
    simp [h]

end Session

/-- What ends a run is known from what leaves the execution, and from the failure that it leaves behind. -/
theorem Ended.unique_of_leaves {q : Quiet (Option Panic × Findings)} {s t u : Session} {a b : Ended}
    {panic panic' : Option Panic} {started started' : Bool} (ha : a.Leaves panic) (hb : b.Leaves panic')
    (hq : q.run s = ((panic, ⟨started, (none : Option Failure).or a.failure?⟩), t))
    (hq' : q.run s = ((panic', ⟨started', (none : Option Failure).or b.failure?⟩), u)) : a = b ∧ t = u := by
  rw [hq] at hq'
  obtain ⟨hfound, rfl⟩ := Prod.ext_iff.1 hq'
  obtain ⟨rfl, hfound⟩ := Prod.ext_iff.1 hfound
  have hfailure := congrArg Findings.captured hfound
  rw [Option.none_or, Option.none_or] at hfailure
  refine ⟨?_, rfl⟩
  cases a <;> cases b <;> simp_all [Leaves, failure?]

/-- Ends in two runs: both pass, or they fail with counterparts, or one panic ended both. -/
inductive Ended.Counterpart (n m : Nat) : Ended → Ended → Prop
  | passed : Counterpart n m .passed .passed
  | failed {f g : Failure} (h : f.Counterpart n m g) : Counterpart n m (.failed f) (.failed g)
  | panicked (p : Panic) : Counterpart n m (.panicked p) (.panicked p)

theorem Ended.Counterpart.eq_passed_iff {n m : Nat} {a b : Ended} (h : a.Counterpart n m b) :
    a = .passed ↔ b = .passed := by
  cases h <;> simp

/-- A run that has counterparts as outcomes in any two sessions in which the scheduler is doing the same. -/
def Uniform (run : Action Outcome) : Prop := ∀ n m, Twin n m (Outcome.Counterpart n m) run run

/-- What an execution runs ends alike in any two sessions with the same scheduler. -/
theorem uniform_runWithin {σ : Type} (bounds : Bounds) (l : Option (Lifecycle σ)) : Uniform (runWithin bounds l) := by
  intro n m
  cases l with
  | none => exact twin_pure .ok
  | some l => exact (l.within bounds).twin_runOnce

namespace Execution.Ends

variable {e : Execution} {run : Action Outcome} {s t u : Session} {a b : Ended}

/-- An execution that begins in a session ends in one way. -/
theorem unique (h : e.Ends run s a t) (h' : e.Ends run s b u) : a = b ∧ t = u := by
  obtain ⟨panic, ha, hrun⟩ := run_explore_of_ends h {}
  obtain ⟨panic', hb, hrun'⟩ := run_explore_of_ends h' {}
  exact Ended.unique_of_leaves ha hb hrun hrun'

variable (hrun : Uniform run) (hs : s.Undisturbed)
include hrun hs

/-- The run of an execution is its own twin. -/
theorem twinEnds : TwinEnds (Outcome.Counterpart 0 0) (s.onWay e.way) (s.onWay e.way)
    ((catching run).run (s.onWay e.way)) ((catching run).run (s.onWay e.way)) :=
  hrun 0 0 _ _ (Nat.zero_le _) (Nat.zero_le _) rfl hs.panicked

/-- Behind an execution that passes the exploration is undisturbed. -/
theorem undisturbed (h : e.Ends run s .passed t) : t.Undisturbed := by
  rcases h with ⟨hr, -⟩ | _ | _ | _
  have hends := twinEnds (e := e) hrun hs
  rw [hr] at hends
  rcases hends with ⟨-, -, -, -, hexploring, hnoted, -⟩ | _
  exact ⟨hexploring.trans hs.exploring, hnoted⟩

/-- An execution takes nothing back. -/
theorem onward (h : e.Ends run s a t) : s.Onward t := by
  have hends := twinEnds (e := e) hrun hs
  have hway : s.Onward (s.onWay e.way) := .withScheduler s _
  have hunwound (t : Session) : t.Onward (e.unwound t) := by
    rw [unwound]
    cases e.unwinding with
    | none => exact .refl t
    | some payload => exact t.onward_noted _
  cases h with
  | passed hr hclosing =>
    rw [hr] at hends
    rcases hends with ⟨-, -, ht, -, -, -, -⟩ | _
    exact hway.trans ht
  | objected hr hclosing =>
    rw [hr] at hends
    rcases hends with ⟨-, -, ht, -, -, -, -⟩ | _
    exact hway.trans (ht.trans (Session.onward_noted _ _))
  | failed hr =>
    rw [hr] at hends
    rcases hends with ⟨-, -, ht, -, -, -, -⟩ | _
    exact hway.trans (ht.trans (hunwound _))
  | panicked hr =>
    rw [hr] at hends
    rcases hends with _ | ⟨-, ht, -, -, -⟩
    exact hway.trans (ht.trans (hunwound _))

/-- Behind an execution that ends in a panic, the scheduler has noted it exactly if the panic is its own. -/
theorem noted {p : Panic} (h : e.Ends run s (.panicked p) t) :
    t.scheduler.panicked = true ↔ p.origin = .scheduler := by
  have hends := twinEnds (e := e) hrun hs
  rcases h with _ | @⟨t, _, hr, -⟩ | _ | @⟨t, q, hr⟩
  · rw [hr] at hends
    rcases hends with ⟨-, -, -, -, -, hnoted, -⟩ | _
    rw [Session.panicked_noted, hnoted]
    simp
  · rw [hr] at hends
    rcases hends with _ | ⟨-, -, -, -, hnoted⟩
    rw [unwound, leaving]
    cases e.unwinding with
    | none => exact hnoted
    | some payload => exact iff_of_true ((t.panicked_noted _).2 (Or.inr rfl)) rfl

/-- An execution ends alike in every session in which the exploration is undisturbed. -/
theorem exists_counterpart {n m : Nat} (h : e.Ends run s a t) (hu : u.Undisturbed) (hn : n ≤ s.nextFailure)
    (hm : m ≤ u.nextFailure) : ∃ b v, e.Ends run u b v ∧ a.Counterpart n m b := by
  have hscheduler : (s.onWay e.way).scheduler = (u.onWay e.way).scheduler := by
    rw [hs.scheduler_onWay, hu.scheduler_onWay]
  have hends := hrun n m (s.onWay e.way) (u.onWay e.way) hn hm hscheduler hs.panicked
  rcases hu' : (catching run).run (u.onWay e.way) with ⟨r, v⟩
  rw [hu'] at hends
  cases h with
  | passed hr hclosing =>
    rw [hr] at hends
    rcases hends with ⟨hR, hscheduler, -, -, -, -, -⟩ | _
    cases hR
    exact ⟨_, _, .passed hu' (hscheduler ▸ hclosing), .passed⟩
  | objected hr hclosing =>
    rw [hr] at hends
    rcases hends with ⟨hR, hscheduler, -, -, -, -, -⟩ | _
    cases hR
    exact ⟨_, _, .objected hu' (hscheduler ▸ hclosing), .panicked _⟩
  | failed hr =>
    rw [hr] at hends
    rcases hends with ⟨hR, -, -, -, -, -, -⟩ | _
    cases hR with
    | error h => exact ⟨_, _, .failed hu', .failed h⟩
  | panicked hr =>
    rw [hr] at hends
    cases hends
    exact ⟨_, _, .panicked hu', .panicked _⟩

end Execution.Ends

/-- Executions that begin in a session lead to one end. -/
theorem Leads.unique {run : Action Outcome} {s t t' : Session} {es : List Execution} {ended ended' : Ended}
    (h : Leads run s es ended t) (h' : Leads run s es ended' t') : ended = ended' ∧ t = t' := by
  obtain ⟨panic, ha, hrun⟩ := Execution.run_exploreAll_of_leads h {}
  obtain ⟨panic', hb, hrun'⟩ := Execution.run_exploreAll_of_leads h' {}
  exact Ended.unique_of_leaves ha hb hrun hrun'

section Leads

variable {run : Action Outcome} (hrun : Uniform run) {s t : Session} {es : List Execution} {ended : Ended}

/-- The execution passes, in whatever session and behind whatever other executions. -/
def Execution.Passes (e : Execution) (run : Action Outcome) : Prop :=
  ∀ s : Session, s.Undisturbed → ∃ t, e.Ends run s .passed t

/-- The execution is the first one that does not pass. -/
def StopsAt (run : Action Outcome) (es : List Execution) (e : Execution) : Prop :=
  ∃ before after, es = before ++ e :: after ∧ (∀ b ∈ before, b.Passes run) ∧ ¬ e.Passes run

include hrun

/-- An execution that passes once passes always. -/
theorem Execution.Ends.passes {e : Execution} (hs : s.Undisturbed) (h : e.Ends run s .passed t) : e.Passes run := by
  intro u hu
  obtain ⟨b, v, hb, hab⟩ := h.exists_counterpart hrun hs hu (Nat.zero_le _) (Nat.zero_le _)
  obtain rfl : b = .passed := hab.eq_passed_iff.1 rfl
  exact ⟨v, hb⟩

/-- Executions lead to a pass exactly if each of them passes, in whatever order. -/
theorem Leads.eq_passed_iff (h : Leads run s es ended t) (hs : s.Undisturbed) :
    ended = .passed ↔ ∀ e ∈ es, e.Passes run := by
  induction h with
  | nil s => simp
  | @stop s t e ended h hbad es =>
    refine iff_of_false hbad fun hall => hbad ?_
    obtain ⟨u, hu⟩ := hall e List.mem_cons_self s hs
    exact (h.unique hu).1
  | @next s t u e es ended h hes ih =>
    rw [List.forall_mem_cons, ← ih (h.undisturbed hrun hs)]
    exact (and_iff_right (h.passes hrun hs)).symm

/-- Executions go on behind those that pass. -/
theorem Leads.exists_behind {before : List Execution} (h : Leads run s (before ++ es) ended t) (hs : s.Undisturbed)
    (hbefore : ∀ b ∈ before, b.Passes run) :
    ∃ u, u.Undisturbed ∧ Leads run s before .passed u ∧ Leads run u es ended t := by
  induction before generalizing s with
  | nil => exact ⟨s, hs, .nil s, h⟩
  | cons b before ih =>
    rw [List.forall_mem_cons] at hbefore
    obtain ⟨v, hv⟩ := hbefore.1 s hs
    rcases h with _ | ⟨h, hbad, _⟩ | ⟨h, hes⟩
    · exact absurd (h.unique hv).1 hbad
    · obtain ⟨u, hu, hpassed, hes⟩ := ih hes (h.undisturbed hrun hs) hbefore.2
      exact ⟨u, hu, .next h hpassed, hes⟩

/-- Executions that stop at one lead to its end. -/
theorem Leads.exists_ends_of_stopsAt {e : Execution} (h : Leads run s es ended t) (hs : s.Undisturbed)
    (he : StopsAt run es e) : ∃ u, u.Undisturbed ∧ e.Ends run u ended t := by
  obtain ⟨before, after, rfl, hbefore, he⟩ := he
  obtain ⟨u, hu, -, hes⟩ := h.exists_behind hrun hs hbefore
  rcases hes with _ | ⟨h, _, _⟩ | ⟨h, _⟩
  · exact ⟨u, hu, h⟩
  · exact absurd (h.passes hrun hu) he

/-- Executions that lead to no pass stop at one of them. -/
theorem Leads.exists_stop (h : Leads run s es ended t) (hs : s.Undisturbed) (hbad : ended ≠ .passed) :
    ∃ before e after u, es = before ++ e :: after ∧ (∀ b ∈ before, b.Passes run) ∧ u.Undisturbed ∧
      e.Ends run u ended t := by
  induction h with
  | nil s => exact absurd rfl hbad
  | @stop s t e ended h _ es => exact ⟨[], e, es, s, rfl, nofun, hs, h⟩
  | @next s t u e es ended h hes ih =>
    obtain ⟨before, e', after, v, rfl, hbefore, hv, he'⟩ := ih (h.undisturbed hrun hs) hbad
    exact ⟨e :: before, e', after, v, rfl, List.forall_mem_cons.2 ⟨h.passes hrun hs, hbefore⟩, hv, he'⟩

/-- Executions that stop at the same one lead to alike ends, whatever comes before it. -/
theorem Leads.alike_of_stopsAt {e : Execution} (h : Leads run s es ended t) (hs : s.Undisturbed)
    (he : StopsAt run es e) {es' : List Execution} {ended' : Ended} {s' t' : Session}
    (h' : Leads run s' es' ended' t') (hs' : s'.Undisturbed) (he' : StopsAt run es' e) :
    ended.Counterpart 0 0 ended' := by
  obtain ⟨u, hu, hend⟩ := h.exists_ends_of_stopsAt hrun hs he
  obtain ⟨u', hu', hend'⟩ := h'.exists_ends_of_stopsAt hrun hs' he'
  obtain ⟨b, v, hb, hab⟩ := hend.exists_counterpart hrun hu hu' (Nat.zero_le _) (Nat.zero_le _)
  rw [(hb.unique hend').1] at hab
  exact hab

/-- Executions take nothing back. -/
theorem Leads.onward (h : Leads run s es ended t) (hs : s.Undisturbed) : s.Onward t := by
  induction h with
  | nil s => exact .refl s
  | stop h hbad es => exact h.onward hrun hs
  | next h hes ih => exact (h.onward hrun hs).trans (ih (h.undisturbed hrun hs))

/-- The same executions lead to alike ends in every session in which the exploration is undisturbed. -/
theorem Leads.exists_counterpart {n m : Nat} (h : Leads run s es ended t) (hs : s.Undisturbed) {u : Session}
    (hu : u.Undisturbed) (hn : n ≤ s.nextFailure) (hm : m ≤ u.nextFailure) :
    ∃ b v, Leads run u es b v ∧ ended.Counterpart n m b := by
  induction h generalizing u with
  | nil s => exact ⟨_, _, .nil u, .passed⟩
  | stop h hbad es =>
    obtain ⟨b, v, hb, hab⟩ := h.exists_counterpart hrun hs hu hn hm
    exact ⟨b, v, .stop hb (fun hpassed => hbad (hab.eq_passed_iff.2 hpassed)) es, hab⟩
  | next h hes ih =>
    obtain ⟨b, v, hb, hab⟩ := h.exists_counterpart hrun hs hu hn hm
    obtain rfl : b = .passed := hab.eq_passed_iff.1 rfl
    have hn' := Nat.le_trans hn (h.onward hrun hs).next
    have hm' := Nat.le_trans hm (hb.onward hrun hu).next
    obtain ⟨b, w, hes', hab⟩ := ih (h.undisturbed hrun hs) (hb.undisturbed hrun hu) hn' hm'
    exact ⟨b, w, .next hb hes', hab⟩

/-- Behind executions that lead to a panic, the scheduler has noted it exactly if the panic is its own. -/
theorem Leads.noted {p : Panic} (h : Leads run s es (.panicked p) t) (hs : s.Undisturbed) :
    t.scheduler.panicked = true ↔ p.origin = .scheduler := by
  generalize hended : Ended.panicked p = ended at h
  induction h with
  | nil s => cases hended
  | stop h _ _ =>
    subst hended
    exact h.noted hrun hs
  | next h _ ih => exact ih (h.undisturbed hrun hs) hended

end Leads

/-! ## Observations -/

/-- Observations that cannot be told apart but by the identity of a failure. -/
inductive Observation.Alike : Observation → Observation → Prop
  | completed : Alike .completed .completed
  | thrown {f g : Failure} (h : f.Alike g) : Alike (.thrown f) (.thrown g)
  | violated (description : String) : Alike (.violated description) (.violated description)

/-- What is observed of an end: of a failure the failure itself, of a panic of the scheduler a violation, and of any
other panic the failure that stands for panics. -/
inductive Ended.Observed : Ended → Observation → Prop
  | passed : Observed .passed .completed
  | failed (f : Failure) : Observed (.failed f) (.thrown f)
  | violated {p : Panic} (h : p.origin = .scheduler) : Observed (.panicked p) (.violated p.payload.message)
  | panicked {p : Panic} (h : p.origin ≠ .scheduler) (id : Nat) :
      Observed (.panicked p) (.thrown ⟨id, "weft::failure::Panicked", .panicked p.payload.message⟩)

namespace Ended.Observed

variable {a b : Ended} {o o' : Observation}

theorem eq_completed_iff (h : a.Observed o) : o = .completed ↔ a = .passed := by
  cases h <;> simp

/-- Ends that are counterparts are observed alike. -/
theorem alike {n m : Nat} (h : a.Observed o) (h' : b.Observed o') (hab : a.Counterpart n m b) : o.Alike o' := by
  cases hab with
  | passed =>
    cases h
    cases h'
    exact .completed
  | failed hf =>
    cases h
    cases h'
    exact .thrown hf.alike
  | panicked p =>
    rcases h with _ | _ | ⟨hp⟩ | ⟨hp, id⟩
    · rcases h' with _ | _ | _ | ⟨hp', id'⟩
      · exact .violated _
      · exact absurd hp hp'
    · rcases h' with _ | _ | hp' | ⟨-, id'⟩
      · exact absurd hp' hp
      · exact .thrown ⟨rfl, .refl _⟩

end Ended.Observed

/-- What is observed of an end, if a failure that stands for a panic gets the given identity. -/
def Ended.observation (id : Nat) : Ended → Observation
  | .passed => .completed
  | .failed f => .thrown f
  | .panicked p =>
    if p.origin = .scheduler then .violated p.payload.message
    else .thrown ⟨id, "weft::failure::Panicked", .panicked p.payload.message⟩

theorem Ended.observed_observation (a : Ended) (id : Nat) : a.Observed (a.observation id) := by
  cases a with
  | passed => exact .passed
  | failed f => exact .failed f
  | panicked p =>
    rw [observation]
    split
    · rename_i h
      exact .violated h
    · rename_i h
      exact .panicked h id

/-- Observations of two runs: the same one, or counterparts were thrown. -/
inductive Observation.Counterpart (n m : Nat) : Observation → Observation → Prop
  | completed : Counterpart n m .completed .completed
  | thrown {f g : Failure} (h : f.Counterpart n m g) : Counterpart n m (.thrown f) (.thrown g)
  | violated (description : String) : Counterpart n m (.violated description) (.violated description)

theorem Observation.Counterpart.alike {n m : Nat} {o o' : Observation} (h : o.Counterpart n m o') : o.Alike o' := by
  cases h with
  | completed => exact .completed
  | thrown h => exact .thrown h.alike
  | violated d => exact .violated d

/-- Answers of two runs: both are one error, or one observation each, and these are counterparts. -/
inductive Answer.Counterpart (n m : Nat) : Answer → Answer → Prop
  | failed (e : EngineError) : Counterpart n m (.failed e) (.failed e)
  | observed {o o' : Observation} (h : o.Counterpart n m o') :
      Counterpart n m { observations := [o] } { observations := [o'] }

/-- Of ends that are counterparts, counterparts are observed. -/
theorem Ended.Counterpart.observation {n m : Nat} {a b : Ended} (h : a.Counterpart n m b) {i j : Nat} (hi : n ≤ i)
    (hj : m ≤ j) : (a.observation i).Counterpart n m (b.observation j) := by
  cases h with
  | passed => exact .completed
  | failed h => exact .thrown h
  | panicked p =>
    rw [Ended.observation, Ended.observation]
    split
    · exact .violated _
    · exact .thrown (.raised hi hj (.ofFault (.panicked p.payload.message)))

/-- The conclusion that an exploration draws changes nothing in the session but the next identity of a failure. -/
theorem Evidence.exists_run_exploration_session (e : Evidence) (s : Session) :
    ∃ next, s.nextFailure ≤ next ∧ (e.exploration.run s).2 = { s with nextFailure := next } := by
  obtain ⟨unwound, captured, started, noted⟩ := e
  cases captured with
  | some f => exact ⟨s.nextFailure, Nat.le_refl _, rfl⟩
  | none =>
    cases unwound with
    | none => exact ⟨s.nextFailure, Nat.le_refl _, rfl⟩
    | some p =>
      cases started with
      | false => exact ⟨s.nextFailure, Nat.le_refl _, rfl⟩
      | true =>
        cases noted with
        | true => exact ⟨s.nextFailure, Nat.le_refl _, rfl⟩
        | false => exact ⟨s.nextFailure + 1, Nat.le_succ _, rfl⟩

namespace Scheduling

/-- A scheduler that panics before any execution ends the exploration. -/
theorem run_explore_refuses (p : Panic) (run : Action Outcome) (s : Session) :
    ((refuses p).explore run).run s = (.aborted p.payload.message, s.atRest) := by
  have hrest : (s.exploring.noted p).atRest = s.atRest := by
    rw [Session.noted]
    split <;> rfl
  have hcheck : (check run (refuses p)).run s.exploring = ((some p, {}), s.exploring.noted p) := by
    rw [check, run_bind, run_notePanic]
    rfl
  rw [explore, run_bind_modify]
  show (check run (refuses p) >>= _ : Quiet _).run s.exploring = _
  rw [run_bind, hcheck, ← hrest]
  rfl

variable {run : Action Outcome} (hrun : Uniform run)
include hrun

/-- An exploration observes the end to which its executions lead. -/
theorem run_explore_answer {s t : Session} {es : List Execution} {ended : Ended}
    (h : Leads run s.exploring es ended t) :
    (((runs es).explore run).run s).1.answer = { observations := [ended.observation t.nextFailure] } := by
  obtain ⟨panic, hpanic, hexplore⟩ := run_explore_of_leads h
  rw [hexplore]
  cases ended with
  | passed =>
    obtain rfl : panic = none := hpanic
    rfl
  | failed f => rfl
  | panicked p =>
    obtain rfl : panic = some p := hpanic
    have hnoted := h.noted hrun s.undisturbed_exploring
    have hne : es.isEmpty = false := by
      cases h <;> rfl
    rw [hne, Evidence.exploration, Ended.observation]
    cases hp : t.scheduler.panicked with
    | true =>
      rw [if_pos (hnoted.1 hp)]
      rfl
    | false =>
      rw [if_neg fun horigin => by simp [hnoted.2 horigin] at hp]
      rfl

omit hrun in
/-- An exploration leaves the session as its executions do, with the scheduler at rest. -/
theorem exists_run_explore_session {s t : Session} {es : List Execution} {ended : Ended}
    (h : Leads run s.exploring es ended t) : ∃ next, t.nextFailure ≤ next ∧
      (((runs es).explore run).run s).2 = { t.atRest with nextFailure := next } := by
  obtain ⟨panic, -, hexplore⟩ := run_explore_of_leads h
  rw [hexplore]
  exact Evidence.exists_run_exploration_session _ t.atRest

/-- An exploration takes nothing back but what the scheduler did, of which nothing is left. -/
theorem onward_explore (scheduling : Scheduling) (s : Session) :
    s.Onward ((scheduling.explore run).run s).2 ∧ ((scheduling.explore run).run s).2.scheduler = {} := by
  cases scheduling with
  | refuses p =>
    rw [run_explore_refuses]
    exact ⟨.withScheduler s _, rfl⟩
  | runs es =>
    obtain ⟨ended, t, hleads⟩ := exists_leads run s.exploring es
    obtain ⟨next, hnext, hsession⟩ := exists_run_explore_session hleads
    have ht : s.Onward t :=
      (Session.Onward.withScheduler s _).trans (hleads.onward hrun s.undisturbed_exploring)
    rw [hsession]
    exact ⟨⟨ht.catalogue, ht.backtraces, Nat.le_trans ht.next hnext, ht.trace⟩, rfl⟩

end Scheduling

namespace Explorer

variable {σ : Type}

/-- A scheduler that panics before any execution keeps the exploration from starting. -/
theorem run_answerUnder_of_refuses (x : Explorer σ) (search : Option (Lifecycle σ) → Scheduling) {p : Payload}
    {a : Arguments} (ha : Arguments.read p.tokens = .ok a) {s : Session} {l : Option (Lifecycle σ)}
    (hl : x.resolve s.catalogue a = .ok l) {q : Panic} (hq : search l = .refuses q) :
    ((x.answerUnder search p).run s).1 = .failed (.aborted q.payload.message) := by
  obtain ⟨log, hanswer⟩ := x.run_answerUnder search ha hl
  rw [hanswer, hq, Scheduling.run_explore_refuses]
  rfl

/-- The answer of an explorer that goes through executions: one observation, of the end to which they lead. -/
theorem exists_leads_answer (x : Explorer σ) (search : Option (Lifecycle σ) → Scheduling) {p : Payload}
    {a : Arguments} (ha : Arguments.read p.tokens = .ok a) {s : Session} {l : Option (Lifecycle σ)}
    (hl : x.resolve s.catalogue a = .ok l) {es : List Execution} (hes : search l = .runs es) :
    ∃ log ended t, Leads (runWithin x.bounds l) (s.logged log).exploring es ended t ∧
      ((x.answerUnder search p).run s).1 = { observations := [ended.observation t.nextFailure] } ∧
      ((x.answerUnder search p).run s).2.trace = t.trace := by
  obtain ⟨log, hanswer⟩ := x.run_answerUnder search ha hl
  obtain ⟨ended, t, hleads⟩ := exists_leads (runWithin x.bounds l) (s.logged log).exploring es
  obtain ⟨next, -, hsession⟩ := Scheduling.exists_run_explore_session hleads
  refine ⟨log, ended, t, hleads, ?_, ?_⟩
  · rw [hanswer, hes]
    exact Scheduling.run_explore_answer (uniform_runWithin x.bounds l) hleads
  · rw [hanswer, hes]
    dsimp only
    rw [hsession]
    rfl

/-- An explorer fails, or it goes through executions and observes the end to which they lead. -/
theorem cases_answer (x : Explorer σ) (search : Option (Lifecycle σ) → Scheduling) (p : Payload) (s : Session) :
    (∃ e, ((x.answerUnder search p).run s).1 = .failed e) ∨
      ∃ a l es log ended t, Arguments.read p.tokens = .ok a ∧ x.resolve s.catalogue a = .ok l ∧
        search l = .runs es ∧ Leads (runWithin x.bounds l) (s.logged log).exploring es ended t ∧
        ((x.answerUnder search p).run s).1 = { observations := [ended.observation t.nextFailure] } ∧
        ((x.answerUnder search p).run s).2.trace = t.trace := by
  cases ha : Arguments.read p.tokens with
  | error e => exact Or.inl ⟨_, x.run_answerUnder_of_read_error search ha s⟩
  | ok a =>
    cases hl : x.resolve s.catalogue a with
    | error e => exact Or.inl ⟨_, x.run_answerUnder_of_resolve_error search ha hl⟩
    | ok l =>
      cases hes : search l with
      | refuses q => exact Or.inl ⟨_, x.run_answerUnder_of_refuses search ha hl hes⟩
      | runs es =>
        obtain ⟨log, ended, t, hleads, hanswer, htrace⟩ := x.exists_leads_answer search ha hl hes
        exact Or.inr ⟨a, l, es, log, ended, t, rfl, hl, hes, hleads, hanswer, htrace⟩

/-- What an explorer observes that goes through executions is the end to which they lead. -/
theorem exists_observed_answer (x : Explorer σ) (search : Option (Lifecycle σ) → Scheduling) {p : Payload}
    {a : Arguments} (ha : Arguments.read p.tokens = .ok a) {s : Session} {l : Option (Lifecycle σ)}
    (hl : x.resolve s.catalogue a = .ok l) {es : List Execution} (hes : search l = .runs es) :
    ∃ o log ended t, ((x.answerUnder search p).run s).1 = { observations := [o] } ∧ ended.Observed o ∧
      Leads (runWithin x.bounds l) (s.logged log).exploring es ended t := by
  obtain ⟨log, ended, t, hleads, hanswer, -⟩ := x.exists_leads_answer search ha hl hes
  exact ⟨_, log, ended, t, hanswer, ended.observed_observation _, hleads⟩

/-- Sessions in which a payload is resolved to the same answer it with counterparts. -/
theorem answers_counterparts (x : Explorer σ) (search : Option (Lifecycle σ) → Scheduling) (p : Payload) {n m : Nat}
    {s t : Session} (hn : n ≤ s.nextFailure) (hm : m ≤ t.nextFailure)
    (hst : ∀ a, Arguments.read p.tokens = .ok a → x.resolve s.catalogue a = x.resolve t.catalogue a) :
    ((x.answerUnder search p).run s).1.Counterpart n m ((x.answerUnder search p).run t).1 := by
  cases ha : Arguments.read p.tokens with
  | error e =>
    rw [x.run_answerUnder_of_read_error search ha s, x.run_answerUnder_of_read_error search ha t]
    exact .failed _
  | ok a =>
    have hst := hst a ha
    cases hl : x.resolve s.catalogue a with
    | error e =>
      rw [x.run_answerUnder_of_resolve_error search ha hl, x.run_answerUnder_of_resolve_error search ha (hst ▸ hl)]
      exact .failed e
    | ok l =>
      cases hes : search l with
      | refuses q =>
        rw [x.run_answerUnder_of_refuses search ha hl hes, x.run_answerUnder_of_refuses search ha (hst ▸ hl) hes]
        exact .failed _
      | runs es =>
        have hrun := uniform_runWithin x.bounds l
        obtain ⟨log, ended, u, hleads, hs, -⟩ := x.exists_leads_answer search ha hl hes
        obtain ⟨log', ended', u', hleads', ht, -⟩ := x.exists_leads_answer search ha (s := t) (hst ▸ hl) hes
        have hundisturbed := Session.undisturbed_exploring (s.logged log)
        have hundisturbed' := Session.undisturbed_exploring (t.logged log')
        obtain ⟨b, v, hb, hab⟩ := hleads.exists_counterpart hrun hundisturbed hundisturbed' hn hm
        have hended : b = ended' ∧ v = u' := hb.unique hleads'
        rw [hended.1] at hab
        have hi : n ≤ u.nextFailure := Nat.le_trans hn (hleads.onward hrun hundisturbed).next
        have hj : m ≤ u'.nextFailure := Nat.le_trans hm (hleads'.onward hrun hundisturbed').next
        rw [hs, ht]
        exact .observed (hab.observation hi hj)

/-- Sessions with one catalogue answer a payload alike: with the same error, or with one observation each. -/
theorem answers_alike (x : Explorer σ) (search : Option (Lifecycle σ) → Scheduling) (p : Payload) {s t : Session}
    (hst : s.catalogue = t.catalogue) :
    (∃ e, ((x.answerUnder search p).run s).1 = .failed e ∧ ((x.answerUnder search p).run t).1 = .failed e) ∨
      ∃ o o', ((x.answerUnder search p).run s).1 = { observations := [o] } ∧
        ((x.answerUnder search p).run t).1 = { observations := [o'] } ∧ o.Alike o' := by
  have h := x.answers_counterparts search p (Nat.zero_le s.nextFailure) (Nat.zero_le t.nextFailure)
    fun a _ => by rw [hst]
  generalize ((x.answerUnder search p).run s).1 = a at h ⊢
  generalize ((x.answerUnder search p).run t).1 = b at h ⊢
  cases h with
  | failed e => exact Or.inl ⟨e, rfl, rfl⟩
  | observed h => exact Or.inr ⟨_, _, rfl, rfl, h.alike⟩

/-- An explorer takes nothing back, and leaves a scheduler at rest so. -/
theorem onward_answerUnder (x : Explorer σ) (search : Option (Lifecycle σ) → Scheduling) (p : Payload) (s : Session) :
    s.Onward ((x.answerUnder search p).run s).2 ∧
      (s.scheduler = {} → ((x.answerUnder search p).run s).2.scheduler = {}) := by
  cases ha : Arguments.read p.tokens with
  | error e =>
    rw [answerUnder]
    simp only [ha]
    exact ⟨.refl s, id⟩
  | ok a =>
    cases hl : x.resolve s.catalogue a with
    | error e =>
      rw [answerUnder]
      simp only [ha]
      rw [run_bind, Session.run_span, run_bind_get, Session.catalogue_logged, hl]
      exact ⟨.logged s _, id⟩
    | ok l =>
      obtain ⟨log, hanswer⟩ := x.run_answerUnder search ha hl
      obtain ⟨honward, hrest⟩ := Scheduling.onward_explore (uniform_runWithin x.bounds l) (search l) (s.logged log)
      rw [hanswer]
      exact ⟨(Session.Onward.logged s log).trans honward, fun _ => hrest⟩

/-- **One report of an exploration.** Whatever a scheduler does, an explorer either ends with an error and observes
nothing, or observes one thing. A payload that cannot be read or resolved is an error, and so is a panic before the
first execution. Otherwise it observes the end of the first execution that does not pass; it observes that the test
completed exactly if every execution passes. So neither the order of the executions nor the session bears on whether
the test completes, and of two explorations that stop at one execution the observations are alike. -/
theorem answerUnder_reports (x : Explorer σ) (search : Option (Lifecycle σ) → Scheduling) (p : Payload)
    (s : Session) :
    let r := ((x.answerUnder search p).run s).1
    ((∃ e, r = .failed e) ∨ ∃ o, r = { observations := [o] }) ∧
      (∀ e, Arguments.read p.tokens = .error e → r = .failed (.payload e)) ∧
      ∀ a, Arguments.read p.tokens = .ok a →
        (∀ e, x.resolve s.catalogue a = .error e → r = .failed e) ∧
        ∀ l, x.resolve s.catalogue a = .ok l →
          (∀ q, search l = .refuses q → r = .failed (.aborted q.payload.message)) ∧
          ∀ es, search l = .runs es → ∃ o log ended t, r = { observations := [o] } ∧
            Leads (runWithin x.bounds l) (s.logged log).exploring es ended t ∧ ended.Observed o ∧
            (o = .completed ↔ ∀ e ∈ es, e.Passes (runWithin x.bounds l)) ∧
            ∀ search' es' s', search' l = .runs es' → s'.catalogue = s.catalogue →
              ∃ o', ((x.answerUnder search' p).run s').1 = { observations := [o'] } ∧
                ((∀ e, e ∈ es' ↔ e ∈ es) → (o' = .completed ↔ o = .completed)) ∧
                ∀ e, StopsAt (runWithin x.bounds l) es e → StopsAt (runWithin x.bounds l) es' e → o.Alike o' := by
  intro r
  have htwin (l : Option (Lifecycle σ)) := uniform_runWithin x.bounds l
  refine ⟨?_, fun e he => x.run_answerUnder_of_read_error search he s, fun a ha =>
    ⟨fun e he => x.run_answerUnder_of_resolve_error search ha he, fun l hl => ⟨fun q hq => ?_, fun es hes => ?_⟩⟩⟩
  · rcases x.answers_alike search p (s := s) rfl with ⟨e, he, -⟩ | ⟨o, _, ho, -⟩
    · exact Or.inl ⟨e, he⟩
    · exact Or.inr ⟨o, ho⟩
  · exact x.run_answerUnder_of_refuses search ha hl hq
  · obtain ⟨o, log, ended, t, hr, ho, hleads⟩ := x.exists_observed_answer search ha hl hes
    have hcompleted : o = .completed ↔ ∀ e ∈ es, e.Passes (runWithin x.bounds l) := by
      rw [ho.eq_completed_iff]
      exact hleads.eq_passed_iff (htwin l) (Session.undisturbed_exploring _)
    refine ⟨o, log, ended, t, hr, hleads, ho, hcompleted, fun search' es' s' hes' hs' => ?_⟩
    obtain ⟨o', log', ended', t', hr', ho', hleads'⟩ :=
      x.exists_observed_answer search' ha (s := s') (by rwa [hs']) hes'
    refine ⟨o', hr', fun hmem => ?_, fun e he he' => ?_⟩
    · rw [hcompleted, ho'.eq_completed_iff, hleads'.eq_passed_iff (htwin l) (Session.undisturbed_exploring _)]
      exact forall_congr' fun e => by rw [hmem]
    · exact ho.alike ho' (hleads.alike_of_stopsAt (htwin l) (Session.undisturbed_exploring _) he hleads'
        (Session.undisturbed_exploring _) he')

end Explorer

end Interleave
