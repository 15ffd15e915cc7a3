import Interleave.Proofs.Engine.Exploration
import Interleave.Proofs.Invocation.Outcome
import Interleave.Proofs.Runner.Resolution

/-!
# Direct runs and explorations agree

A concurrent statement sends its test through an engine: the names go into a payload and come back from it, the
class is looked up, the lifecycle is resolved and explored, and what was observed becomes a verdict. For bodies
without threads all this makes no difference.

- What the explorer resolves the payload to is the lifecycle of the direct statement, and what it answers means the
  outcome of that lifecycle (`Outcome.outcome_answer`, `run_concurrentStatement`).
- So both statements end with one outcome and run the same bodies (`statements_agree`).
-/

namespace Interleave

variable {σ : Type}

/-- The answer that reports an outcome means that outcome. -/
theorem Outcome.outcome_answer (o : Outcome) (id : Nat) :
    o.exploration.answer.outcome id = .ok (o.mapError .testFailed) := by
  rcases o with f | _ <;> rfl

/-- An invocation is prepared by an explorer without a failure and without a body that runs. -/
theorem Invocation.prepared_explorer {x : Explorer σ} (hb : x.bounds.Startable) (id : Nat) (primer : Primer)
    (test : Descriptor) (s : Session) :
    let t := prepared ⟨x.engine id, primer⟩ test s
    t.nextFailure = s.nextFailure ∧ t.trace = s.trace :=
  x.run_prime hb primer id _

/-- The lifecycle of a test does without threads if all methods of its class do. -/
theorem TestClass.threadless_lifecycle {c : TestClass σ} (h : ∀ m ∈ c.methods, m.body.Threadless)
    {m : TestMethod σ} (hm : m ∈ c.methods) : (c.lifecycle m).Threadless where
  befores n hn := h n (mem_methodsOf.1 hn).1
  test := h m hm
  afters n hn := h n (mem_methodsOf.1 hn).1

namespace Runner

variable {c : TestClass σ} {x : Explorer σ} {id : Nat} {primer : Primer} {r : Runner σ} {m : TestMethod σ}
  {o : Outcome} {n n' k : Nat} {ts : List Trace}

/-- A direct statement ends with the outcome of its lifecycle. -/
theorem run_directStatement (h : Goes (r.target.lifecycle m).runOnce n o n' ts k) {s : Session}
    (hs : s.Calm) (hn : s.nextFailure = n) : (catching (r.directStatement m).evaluate).run s =
      (.ok (o.mapError .testFailed), s.passed n' ts k) :=
  catching_bind_of_ok (h s hs hn)

/-- A concurrent statement ends with the outcome of the lifecycle that is run directly otherwise. -/
theorem run_concurrentStatement (hr : ofClass c ⟨x.engine id, primer⟩ = .ok r)
    (hx : x.registry.find? c.name = some c) (hb : x.bounds.Startable) (hm : m ∈ r.concurrentTests)
    (hin : ¬ exceptionSeparator.toList <:+: m.name.toList) (hl : (r.target.lifecycle m).Threadless)
    (h : Goes (r.target.lifecycle m).runOnce n o n' ts k) {s : Session} (hn : s.nextFailure = n) :
    ∃ t, (catching (r.concurrentStatement m).evaluate).run s = (.ok (o.mapError .testFailed), t) ∧
      t.trace = s.trace ++ ts ∧ t.Idle := by
  obtain ⟨hc, rfl⟩ := ofClass_eq_ok_iff.1 hr
  let i : Invocation := ⟨x.engine id, primer⟩
  let p : Payload := .ofTest (c.byName m)
  -- the session on its way to the engine: prepared, with the expectation remembered, with the payload delivered
  let u : Session := i.prepared m.descriptor s
  let v : Session := { u with catalogue := u.catalogue.rememberAll m.expected }
  let w : Session := { v.logged [Invocation.launch p] with deliveries := v.deliveries ++ [⟨id, p.tokens⟩] }
  obtain ⟨hnext, htrace⟩ := Invocation.prepared_explorer hb id primer m.descriptor s
  obtain ⟨a, ha, hres⟩ := Explorer.resolve_of_mem hx hc hm hin
  obtain ⟨log, hans⟩ := x.run_answer ha (s := w) (hres w.catalogue)
  rw [Explorer.run_explore_some hb hl h (s := w.logged log) (hnext.trans hn)] at hans
  have hreply : i.reply c m.descriptor ((c.methodsOf .before).map TestMethod.descriptor)
      ((c.methodsOf .after).map TestMethod.descriptor) m.expected s =
      .ok (o.exploration.answer, (w.logged log).explored n' ts) := by
    rw [Invocation.reply, TestClass.run_build_of_mem hc hm]
    exact congrArg Except.ok hans
  -- the outcome now comes back through the collector, which hands it on as it is
  obtain ⟨next, hrun⟩ := i.run_of_reply_eq_ok _ _ _ _ _ hreply
  rw [Outcome.outcome_answer] at hrun
  exact ⟨_, hrun, congrArg (· ++ ts) htrace, rfl⟩

/-- **Two ways to one outcome.** If the bodies of a concurrent test and of the hooks of its class do without
threads, its statement agrees with the direct one: both end with the same outcome, down to the identity of the
failure, and both make one fixture and run on it the same bodies, in the same order, each of them at most once.
Neither leaves an exploration under way. -/
theorem statements_agree (hr : ofClass c ⟨x.engine id, primer⟩ = .ok r) (hx : x.registry.find? c.name = some c)
    (hb : x.bounds.Startable) (hm : m ∈ r.concurrentTests)
    (hin : ¬ exceptionSeparator.toList <:+: m.name.toList) (hl : (c.lifecycle m).Threadless) {s : Session}
    (hs : s.Idle) :
    ∃ (o : Outcome) (names : List String) (t u : Session), names.Sublist (c.lifecycle m).plan ∧
      (catching (r.directStatement m).evaluate).run s = (.ok (o.mapError .testFailed), t) ∧
      (catching (r.concurrentStatement m).evaluate).run s = (.ok (o.mapError .testFailed), u) ∧
      t.trace = s.trace ++ .built c.name :: names.map .ran ∧ u.trace = t.trace ∧ t.Idle ∧ u.Idle := by
  obtain ⟨hc, rfl⟩ := ofClass_eq_ok_iff.1 hr
  obtain ⟨o, n', names, k, hsub, hgo⟩ := Lifecycle.exists_goes_runOnce hl s.nextFailure
  have ht := run_directStatement (r := ⟨c, ⟨x.engine id, primer⟩⟩) hgo hs.calm rfl
  obtain ⟨u, hu, htrace, hidle⟩ := run_concurrentStatement hr hx hb hm hin hl hgo (s := s) rfl
  exact ⟨o, names, _, u, hsub, ht, hu, rfl, htrace, hs.passed _ _ _, hidle⟩

/-- A test that fails with another failure than the expected one, on a fixture that a before has changed, and an
after that panics. -/
theorem statements_agree_unexpected :
    let c := (((TestClass.empty "Cart" 0).register .before "fills"
        (.sequential fun n => (n + 1, .passes))).register .concurrent "adds"
        (.sequential fun n =>
          (n, if n = 1 then .fails ⟨"LostUpdate", .custom "LostUpdate" "lost" none⟩ else .passes))
        (some .panic)).register .after "empties" (.sequential fun n => (n - 1, .panics ⟨.text "boom", .body⟩))
    let x : Explorer Nat := ⟨.ofList [c], {}⟩
    ∃ r m o names t u, ofClass c ⟨x.engine 0, ⟨0⟩⟩ = .ok r ∧ m ∈ r.concurrentTests ∧
      (catching (r.directStatement m).evaluate).run .start = (.ok (Except.mapError .testFailed o), t) ∧
      (catching (r.concurrentStatement m).evaluate).run .start = (.ok (o.mapError .testFailed), u) ∧
      t.trace = .built c.name :: List.map Trace.ran names ∧ u.trace = t.trace := by
  intro c x
  have hr : ofClass c ⟨x.engine 0, ⟨0⟩⟩ = .ok ⟨c, ⟨x.engine 0, ⟨0⟩⟩⟩ := rfl
  have hm : c.methods[1] ∈ c.methodsOf .concurrent := List.mem_singleton.2 rfl
  have hin : ¬ exceptionSeparator.toList <:+: c.methods[1].name.toList := by
    change ¬ exceptionSeparator.toList <:+: "adds".toList
    rw [← Text.splitOnce_eq_none_iff]
    cbv
  have hbodies : ∀ m ∈ c.methods, m.body.Threadless := by
    intro m h
    simp only [c, TestClass.register, TestClass.empty, List.nil_append, List.cons_append, List.mem_cons,
      List.not_mem_nil, or_false] at h
    rcases h with rfl | rfl | rfl <;> refine Body.threadless_sequential fun n p hp => ?_
    · cases hp
    · dsimp only at hp
      split at hp <;> cases hp
    · cases hp
      rfl
  have hl := TestClass.threadless_lifecycle hbodies (TestClass.mem_methodsOf.1 hm).1
  obtain ⟨o, names, t, u, -, ht, hu, htrace, hsame, -⟩ := statements_agree hr (Registry.find?_register_self {} c)
    ⟨by decide, by decide, by decide⟩ hm hin hl (s := .start) rfl
  exact ⟨_, _, o, names, t, u, hr, hm, ht, hu, htrace, hsame⟩

end Runner

end Interleave
