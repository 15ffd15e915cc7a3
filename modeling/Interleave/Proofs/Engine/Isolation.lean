import Mathlib.Data.List.Forall2
import Interleave.Statement
import Interleave.Proofs.Engine.Reports
import Interleave.Proofs.Lifecycle.Methods

/-!
# Tests one behind the other

Explorations and direct runs that go one behind the other share a session, and with it what the scheduler is doing.

- `Session.Resting`: no exploration is under way. Twins that begin there end there, and no panic leaves them
  (`Twin.exists_of_resting`), so that steps in a row that keep to it all end (`exists_run_mapM`).
- A direct statement and an answer of an explorer are, wherever they begin at rest, the same but for the failures that
  are raised on the way (`DirectStatement.exists_counterpart`, `Errand.exists_counterpart`).
- So each of a row ends as it does alone, and what it leaves behind is of no account to a panic in the next one
  (`Errand.run_apart`).
-/

namespace Interleave

universe u

/-! ## Sessions at rest -/

/-- No exploration is under way, and the identities below the given one have been given away. -/
structure Session.Resting (n : Nat) (s : Session) : Prop where
  scheduler : s.scheduler = {}
  next : n ≤ s.nextFailure

theorem Session.resting_atRest (s : Session) : s.atRest.Resting s.nextFailure := ⟨rfl, Nat.le_refl _⟩

/-- What goes on from a session at rest and stops the scheduler is at rest again. -/
theorem Session.Resting.onward {n : Nat} {s t : Session} (hs : s.Resting n) (ht : s.Onward t)
    (hrest : s.scheduler = {} → t.scheduler = {}) : t.Resting n :=
  ⟨hrest hs.scheduler, Nat.le_trans hs.next ht.next⟩

/-- Twins that begin in sessions at rest end, and leave the sessions at rest. -/
theorem Twin.exists_of_resting {α β : Type} {n m : Nat} {R : α → β → Prop} {x : Action α} {y : Action β}
    (h : Twin n m R x y) {s s' : Session} (hs : s.Resting n) (hs' : s'.Resting m) :
    ∃ a b t t', (catching x).run s = (.ok a, t) ∧ (catching y).run s' = (.ok b, t') ∧ R a b ∧ t.Resting n ∧
      s.Onward t := by
  have hends := h s s' hs.next hs'.next (hs.scheduler.trans hs'.scheduler.symm) (by rw [hs.scheduler])
  generalize (catching x).run s = p at hends ⊢
  generalize (catching y).run s' = q at hends ⊢
  cases hends with
  | ok hR hscheduler ht ht' hexploring hnoted hrest => exact ⟨_, _, _, _, rfl, rfl, hR, hs.onward ht hrest, ht⟩
  | error hscheduler ht ht' hexploring hnoted =>
    rw [hs.scheduler] at hexploring
    cases hexploring

/-- Steps in a row that each end and keep what they find all end and keep it, and each of them has begun in some
session that had it. -/
theorem exists_run_mapM {ι : Type u} {α : Type} {keep : Session → Prop} {f : ι → Action α} {xs : List ι}
    (h : ∀ x ∈ xs, ∀ s, keep s → ∃ a t, (catching (f x)).run s = (.ok a, t) ∧ keep t) {s : Session} (hs : keep s) :
    ∃ as t, (catching (xs.mapM f)).run s = (.ok as, t) ∧ keep t ∧
      List.Forall₂ (fun x a => ∃ u v, keep u ∧ (catching (f x)).run u = (.ok a, v)) xs as := by
  induction xs generalizing s with
  | nil => exact ⟨[], s, rfl, hs, .nil⟩
  | cons x xs ih =>
    rw [List.forall_mem_cons] at h
    obtain ⟨a, t, hx, ht⟩ := h.1 s hs
    obtain ⟨as, u, hxs, hu, hall⟩ := ih h.2 ht
    refine ⟨a :: as, u, ?_, hu, .cons ⟨s, t, hs, hx⟩ hall⟩
    rw [List.mapM_cons, catching_bind_of_ok hx, catching_bind_of_ok hxs]
    rfl

/-! ## Direct statements -/

/-- Outcomes of two invocations: the same one, or the test failed in both, with counterparts. -/
inductive Invoked.Counterpart (n m : Nat) : Invoked → Invoked → Prop
  | same (o : Invoked) : Counterpart n m o o
  | testFailed {f g : Failure} (h : f.Counterpart n m g) :
      Counterpart n m (.error (.testFailed f)) (.error (.testFailed g))

theorem Outcome.Counterpart.invoked {n m : Nat} {o o' : Outcome} (h : o.Counterpart n m o') :
    Invoked.Counterpart n m (o.mapError .testFailed) (o'.mapError .testFailed) := by
  cases h with
  | ok => exact .same _
  | error h => exact .testFailed h

/-- Wherever a direct statement begins at rest, it ends alike. -/
theorem DirectStatement.exists_counterpart {σ : Type} (statement : DirectStatement σ) {n m : Nat} {s s' : Session}
    (hs : s.Resting n) (hs' : s'.Resting m) : ∃ o o' t t', (catching statement.evaluate).run s = (.ok o, t) ∧
      (catching statement.evaluate).run s' = (.ok o', t') ∧ Invoked.Counterpart n m o o' ∧ t.Resting n ∧
      s.Onward t := by
  have htwin : Twin n m (Invoked.Counterpart n m) statement.evaluate statement.evaluate :=
    statement.lifecycle.twin_runOnce.bind fun _ _ h => twin_pure h.invoked
  exact htwin.exists_of_resting hs hs'

/-! ## Errands -/

/-- Something to be done in a session: an exploration of a payload, under any scheduling, or a direct run. -/
inductive Errand : Type 1
  | explore {σ : Type} (x : Explorer σ) (search : Option (Lifecycle σ) → Scheduling) (p : Payload)
  | direct {σ : Type} (statement : DirectStatement σ)

namespace Errand

/-- What comes of it: the answer of the explorer, or the outcome of the direct run. -/
inductive Result
  | answered (a : Answer)
  | ended (o : Invoked)

def run : Errand → Action Result
  | explore x search p => .answered <$> (x.answerUnder search p : Quiet Answer)
  | direct statement => .ended <$> statement.evaluate

/-- Results of two runs: they are counterparts. -/
inductive Result.Counterpart (n m : Nat) : Result → Result → Prop
  | answered {a b : Answer} (h : a.Counterpart n m b) : Counterpart n m (.answered a) (.answered b)
  | ended {o o' : Invoked} (h : o.Counterpart n m o') : Counterpart n m (.ended o) (.ended o')

/-- Wherever an errand begins at rest and with one catalogue, the result is alike. -/
theorem exists_counterpart (e : Errand) {n m : Nat} {s s' : Session} (hs : s.Resting n) (hs' : s'.Resting m)
    (hcatalogue : s.catalogue = s'.catalogue) : ∃ r r' t t', (catching e.run).run s = (.ok r, t) ∧
      (catching e.run).run s' = (.ok r', t') ∧ r.Counterpart n m r' ∧ t.Resting n ∧ s.Onward t := by
  cases e with
  | explore x search p =>
    obtain ⟨ht, hrest⟩ := x.onward_answerUnder search p s
    have halike := x.answers_counterparts search p hs.next hs'.next fun a _ => by rw [hcatalogue]
    exact ⟨_, _, _, _, rfl, rfl, .answered halike, hs.onward ht hrest, ht⟩
  | direct statement =>
    obtain ⟨o, o', t, t', hrun, hrun', halike, ht, honward⟩ := statement.exists_counterpart hs hs'
    refine ⟨.ended o, .ended o', t, t', ?_, ?_, .ended halike, ht, honward⟩
    · rw [run, map_eq_pure_bind, catching_bind_of_ok hrun]
      rfl
    · rw [run, map_eq_pure_bind, catching_bind_of_ok hrun']
      rfl

end Errand

/-! ## Violations -/

/-- Only a panic of the scheduler is observed as a violation. -/
theorem Ended.observation_eq_violated_iff {a : Ended} {id : Nat} {d : String} :
    a.observation id = .violated d ↔ ∃ q, a = .panicked q ∧ q.origin = .scheduler ∧ q.payload.message = d := by
  cases a with
  | passed => simp [observation]
  | failed f => simp [observation]
  | panicked q => by_cases hq : q.origin = .scheduler <;> simp [observation, hq]

/-- An explorer reports a violation only where an execution has ended in a panic of the scheduler. -/
theorem Explorer.exists_leads_of_violated {σ : Type} {x : Explorer σ} {search : Option (Lifecycle σ) → Scheduling}
    {p : Payload} {s : Session} {d : String} (h : .violated d ∈ ((x.answerUnder search p).run s).1.observations) :
    ∃ a l es log q t, Arguments.read p.tokens = .ok a ∧ x.resolve s.catalogue a = .ok l ∧ search l = .runs es ∧
      Leads (runWithin x.bounds l) (s.logged log).exploring es (.panicked q) t ∧ q.origin = .scheduler ∧
      q.payload.message = d := by
  rcases x.cases_answer search p s with ⟨e, he⟩ | ⟨a, l, es, log, ended, t, ha, hl, hes, hleads, hanswer, -⟩
  · rw [he] at h
    cases h
  · rw [hanswer, List.mem_singleton] at h
    obtain ⟨q, rfl, horigin, hd⟩ := Ended.observation_eq_violated_iff.1 h.symm
    exact ⟨a, l, es, log, q, t, ha, hl, hes, hleads, horigin, hd⟩

/-! ## Apart -/

/-- **Tests do not see each other.** Explorations and direct runs are done one behind the other, whatever each of them
ends with. All of them end, and no exploration is under way then, nor is a panic of the scheduler noted; this holds
wherever the row is cut, as the errands are any. Each has the result that it has alone, where the first of them began,
up to the identities of failures that were raised on the way.

In the session that they leave, a method that panics fails with the failure that stands for panics, whoever panicked,
and an explorer reports a violation only where the scheduler has ended an execution with the panic that is described. -/
theorem Errand.run_apart (es : List Errand) (s : Session) :
    ∃ rs t, (catching (es.mapM run)).run s.atRest = (.ok rs, t) ∧
      t.scheduler.exploring = false ∧ t.scheduler.panicked = false ∧
      List.Forall₂ (fun e r => ∃ r' u, (catching e.run).run s.atRest = (.ok r', u) ∧
        r.Counterpart s.nextFailure s.nextFailure r') es rs ∧
      (∀ {σ : Type} (m : TestMethod σ) (fixture : σ) (p : Panic), (m.body.run 0 fixture).ending = .panics p →
        ∃ fixture' id u, (catching (m.invoke fixture)).run t =
          (.ok (fixture', .error ⟨id, "weft::failure::Panicked", .panicked p.payload.message⟩), u)) ∧
      ∀ {σ : Type} (x : Explorer σ) (search : Option (Lifecycle σ) → Scheduling) (p : Payload) (d : String),
        .violated d ∈ ((x.answerUnder search p).run t).1.observations →
        ∃ a l es log q u, Arguments.read p.tokens = .ok a ∧ x.resolve t.catalogue a = .ok l ∧ search l = .runs es ∧
          Leads (runWithin x.bounds l) (t.logged log).exploring es (.panicked q) u ∧ q.origin = .scheduler ∧
          q.payload.message = d := by
  -- a session that is at rest and has the catalogue of the first one is all that an errand needs
  let keep (u : Session) : Prop := u.Resting s.nextFailure ∧ u.catalogue = s.catalogue
  have hs : keep s.atRest := ⟨s.resting_atRest, rfl⟩
  have hstep : ∀ e ∈ es, ∀ u, keep u → ∃ r v, (catching e.run).run u = (.ok r, v) ∧ keep v := by
    rintro e - u ⟨hu, hcatalogue⟩
    obtain ⟨r, _, v, _, hrun, -, -, hv, honward⟩ := e.exists_counterpart hu hu rfl
    exact ⟨r, v, hrun, hv, honward.catalogue.trans hcatalogue⟩
  obtain ⟨rs, t, hrun, ⟨ht, -⟩, hall⟩ := exists_run_mapM hstep hs
  have hidle : t.scheduler.exploring = false := by rw [ht.scheduler]
  refine ⟨rs, t, hrun, hidle, by rw [ht.scheduler], hall.imp ?_, ?_, ?_⟩
  · rintro e r ⟨u, v, ⟨hu, hcatalogue⟩, hrun⟩
    obtain ⟨_, r', _, u', hagain, hrun', halike, -, -⟩ := e.exists_counterpart hu s.resting_atRest hcatalogue
    cases hrun.symm.trans hagain
    exact ⟨r', u', hrun', halike⟩
  · intro σ m fixture p hp
    have hchoice : t.scheduler.choices.headD 0 = 0 := by rw [ht.scheduler]; rfl
    rw [← hchoice] at hp
    exact TestMethod.exists_run_invoke_of_panics hp hidle
  · intro σ x search p d hd
    exact Explorer.exists_leads_of_violated hd

end Interleave
