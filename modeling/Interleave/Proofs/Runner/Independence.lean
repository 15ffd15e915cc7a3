import Interleave.Proofs.Engine.Isolation
import Interleave.Proofs.Invocation.Outcome
import Interleave.Proofs.Runner.Resolution

/-!
# Tests of one class

The tests of a class are run one behind the other and share all there is: a primer, the expectations that were
remembered, an engine. None of this bears on how a test ends.

- A concurrent statement ends with what the explorer answers the payload of its test, wherever it begins at rest
  (`Runner.exists_run_concurrentStatement`), and the payload is resolved to the test whatever the catalogue holds.
- So a test ends alike wherever it is evaluated (`Runner.exists_evaluate_counterpart`).
- A run reports each test once, in order, with what its evaluation ended with (`Runner.exists_run`), which is what it
  ends with alone (`Runner.run_independent`).
-/

namespace Interleave

/-! ## Answers and outcomes -/

/-- Answers that are counterparts mean outcomes that are counterparts. -/
theorem Answer.Counterpart.exists_outcome {n k i j : Nat} {a b : Answer} (h : a.Counterpart n k b) (hi : n ≤ i)
    (hj : k ≤ j) : ∃ o o', a.outcome i = .ok o ∧ b.outcome j = .ok o' ∧ Invoked.Counterpart n k o o' := by
  cases h with
  | failed e => exact ⟨_, _, rfl, rfl, .same _⟩
  | observed h =>
    cases h with
    | completed => exact ⟨_, _, rfl, rfl, .same _⟩
    | thrown h => exact ⟨_, _, rfl, rfl, .testFailed h⟩
    | violated d => exact ⟨_, _, rfl, rfl, .testFailed (.raised hi hj (.ofFault (.unattributed d)))⟩

variable {σ : Type}

/-! ## Concurrent statements -/

section Concurrent

variable {x : Explorer σ} {search : Option (Lifecycle σ) → Scheduling} {id : Nat} {primer : Primer} {n k : Nat}

/-- Warming an explorer up leaves a session at rest. -/
theorem Primer.resting_prime (primer : Primer) {s : Session} (hs : s.Resting n) :
    ((primer.prime (x.engineUnder search id)).run s).2.Resting n := by
  by_cases h : primer.isPrimed s
  · rw [run_prime_of_isPrimed h]
    exact hs
  · obtain ⟨log, hrun⟩ := run_prime_of_not_isPrimed h (x.engineUnder search id)
    let u := s.logged [{ level := .debug, name := "priming checking engine" }]
    obtain ⟨honward, hrest⟩ := x.onward_answerUnder search .warmUp
      { u with deliveries := u.deliveries ++ [⟨id, Payload.warmUp.tokens⟩] }
    rw [hrun]
    exact ⟨hrest hs.scheduler, Nat.le_trans hs.next honward.next⟩

namespace Runner

variable {c : TestClass σ} {r : Runner σ} (hr : ofClass c ⟨x.engineUnder search id, primer⟩ = .ok r)
  {m : TestMethod σ}
include hr

/-- A concurrent statement that begins at rest ends with what the explorer answers the payload of its test in some
session at rest, and leaves the session at rest. -/
theorem exists_run_concurrentStatement (hm : m ∈ r.concurrentTests) {s : Session} (hs : s.Resting n) :
    ∃ u i t, u.Resting n ∧ n ≤ i ∧ t.Resting n ∧ (catching (r.concurrentStatement m).evaluate).run s =
      (((x.answerUnder search (.ofTest (c.byName m))).run u).1.outcome i, t) := by
  obtain ⟨hc, rfl⟩ := ofClass_eq_ok_iff.1 hr
  let i : Invocation := ⟨x.engineUnder search id, primer⟩
  let p : Payload := .ofTest (c.byName m)
  -- the session on its way to the engine: prepared, with the expectation remembered, with the payload delivered
  let u : Session := i.prepared m.descriptor s
  let v : Session := { u with catalogue := u.catalogue.rememberAll m.expected }
  let w : Session := { v.logged [Invocation.launch p] with deliveries := v.deliveries ++ [⟨id, p.tokens⟩] }
  have hu : u.Resting n := primer.resting_prime ⟨hs.scheduler, hs.next⟩
  have hw : w.Resting n := ⟨hu.scheduler, hu.next⟩
  obtain ⟨honward, hrest⟩ := x.onward_answerUnder search p w
  have hanswer := hw.onward honward hrest
  obtain ⟨answer, after, hrun⟩ : ∃ answer after, (x.answerUnder search p).run w = (answer, after) := ⟨_, _, rfl⟩
  have hreply : i.reply c m.descriptor ((c.methodsOf .before).map TestMethod.descriptor)
      ((c.methodsOf .after).map TestMethod.descriptor) m.expected s = .ok (answer, after) := by
    rw [Invocation.reply, TestClass.run_build_of_mem hc hm]
    exact congrArg Except.ok hrun
  obtain ⟨next, hstatement⟩ := i.run_of_reply_eq_ok _ _ _ _ _ hreply
  have hnext := i.next_le_of_reply_eq_ok _ _ _ _ _ hreply
  rw [hstatement] at hnext
  rw [hrun] at hanswer
  have hafter : n ≤ after.nextFailure := hanswer.next
  refine ⟨w, after.nextFailure, _, hw, hafter, ?_, by rw [hrun]; exact hstatement⟩
  exact ⟨hanswer.scheduler, Nat.le_trans hafter hnext⟩

/-! ## Evaluations -/

/-- Wherever a test of the class begins at rest, it ends alike. -/
theorem exists_evaluate_counterpart (hx : x.registry.find? c.name = some c)
    (hin : ∀ m ∈ c.methodsOf .concurrent, ¬ exceptionSeparator.toList <:+: m.name.toList) (hm : m ∈ r.tests)
    {s s' : Session} (hs : s.Resting n) (hs' : s'.Resting k) : ∃ o o' t t',
      (catching (r.evaluate m)).run s = (.ok o, t) ∧ (catching (r.evaluate m)).run s' = (.ok o', t') ∧
        Invoked.Counterpart n k o o' ∧ t.Resting n := by
  obtain ⟨hc, hr'⟩ := ofClass_eq_ok_iff.1 hr
  by_cases hkind : m.kind = .concurrent
  · have hm : m ∈ r.concurrentTests := by
      rcases List.mem_append.1 hm with hm | hm
      · rw [(TestClass.mem_methodsOf.1 hm).2] at hkind
        cases hkind
      · exact hm
    have hmem : m ∈ c.methodsOf .concurrent := by
      rw [hr'] at hm
      exact hm
    obtain ⟨u, i, t, hu, hi, ht, hrun⟩ := exists_run_concurrentStatement hr hm hs
    obtain ⟨u', j, t', hu', hj, -, hrun'⟩ := exists_run_concurrentStatement hr hm hs'
    obtain ⟨a, ha, hres⟩ := Explorer.resolve_of_mem hx hc hmem (hin m hmem)
    have hsame (b : Arguments) (hb : Arguments.read (Payload.ofTest (c.byName m)).tokens = .ok b) :
        x.resolve u.catalogue b = x.resolve u'.catalogue b := by
      cases ha.symm.trans hb
      rw [hres, hres]
    obtain ⟨o, o', ho, ho', halike⟩ := (x.answers_counterparts search _ hu.next hu'.next hsame).exists_outcome hi hj
    rw [ho] at hrun
    rw [ho'] at hrun'
    simp only [evaluate, if_pos hkind]
    exact ⟨o, o', t, t', hrun, hrun', halike, ht⟩
  · obtain ⟨o, o', t, t', hrun, hrun', halike, ht, -⟩ := (r.directStatement m).exists_counterpart hs hs'
    simp only [evaluate, if_neg hkind]
    exact ⟨o, o', t, t', hrun, hrun', halike, ht⟩

/-! ## Runs -/

/-- A report on a test: it says what an evaluation of the test has ended with that began at rest. -/
structure Reported (r : Runner σ) (n : Nat) (m : TestMethod σ) (p : TestReport) : Prop where
  method : p.method = m.descriptor
  kind : p.kind = m.kind
  evaluated : ∃ u v, u.Resting n ∧ (catching (r.evaluate m)).run u = (.ok p.outcome, v)

omit hr in
/-- Whatever a test that was run is reported to have ended with, it has ended with. -/
theorem reported_of_run_runTest {p : TestReport} {u v : Session} (hu : u.Resting n)
    (h : (catching (r.runTest m)).run u = (.ok p, v)) : r.Reported n m p := by
  obtain ⟨o, t, heval, h⟩ := catching_bind_eq_ok_iff.1 h
  cases h
  exact ⟨rfl, rfl, u, t, hu, heval⟩

section Registered

variable (hx : x.registry.find? c.name = some c)
  (hin : ∀ m ∈ c.methodsOf .concurrent, ¬ exceptionSeparator.toList <:+: m.name.toList)
include hx hin

/-- A run that begins at rest ends, without a panic, and reports every test once, in order. -/
theorem exists_run {s : Session} (hs : s.Resting n) : ∃ summary t,
    (catching r.run).run s = (.ok summary, t) ∧ t.Resting n ∧
      List.Forall₂ (r.Reported n) r.tests summary.reports := by
  have hstep : ∀ m ∈ r.tests, ∀ u : Session, u.Resting n →
      ∃ p t, (catching (r.runTest m)).run u = (.ok p, t) ∧ t.Resting n := by
    intro m hm u hu
    obtain ⟨o, -, t, -, heval, -, -, ht⟩ := exists_evaluate_counterpart hr hx hin hm hu hu
    let p : TestReport := ⟨m.descriptor, m.kind, o⟩
    refine ⟨p, t.logged [p.record], ?_, ht.scheduler, ht.next⟩
    rw [runTest, catching_bind_of_ok heval]
    rfl
  obtain ⟨reports, t, hrun, ht, hall⟩ := exists_run_mapM hstep hs
  refine ⟨⟨reports⟩, t, ?_, ht, hall.imp ?_⟩
  · rw [run, catching_bind_of_ok hrun]
    rfl
  · rintro m p ⟨u, v, hu, hp⟩
    exact reported_of_run_runTest hu hp

/-- What is reported of a test is what it ends with alone, wherever it begins at rest. -/
theorem Reported.exists_alone (hm : m ∈ r.tests) {p : TestReport} (hp : r.Reported n m p) {u : Session}
    (hu : u.Resting k) :
    ∃ o v, (catching (r.evaluate m)).run u = (.ok o, v) ∧ Invoked.Counterpart n k p.outcome o := by
  obtain ⟨u', v', hu', hrun⟩ := hp.evaluated
  obtain ⟨_, o, _, v, hagain, halone, halike, -⟩ := exists_evaluate_counterpart hr hx hin hm hu' hu
  cases hrun.symm.trans hagain
  exact ⟨o, v, halone, halike⟩

/-- Reports on one test are counterparts, wherever it was evaluated. -/
theorem Reported.counterpart (hm : m ∈ r.tests) {p q : TestReport} (hp : r.Reported n m p)
    (hq : r.Reported k m q) : Invoked.Counterpart n k p.outcome q.outcome := by
  obtain ⟨u, v, hu, hrun⟩ := hq.evaluated
  obtain ⟨o, v', halone, halike⟩ := Reported.exists_alone hr hx hin hm hp hu
  cases hrun.symm.trans halone
  exact halike

end Registered

end Runner

end Concurrent

/-! ## Summaries -/

/-- What is told of related elements in the same words is told of related lists so. -/
theorem map_eq_map_of_forall₂ {α β γ : Type} {R : α → β → Prop} {f : α → γ} {g : β → γ}
    (h : ∀ a b, R a b → g b = f a) {as : List α} {bs : List β} (hab : List.Forall₂ R as bs) :
    bs.map g = as.map f := by
  have hmap : List.Forall₂ Eq (bs.map g) (as.map f) :=
    List.forall₂_map_left_iff.2 (List.forall₂_map_right_iff.2 (hab.imp h).flip)
  rwa [List.forall₂_eq_eq_eq] at hmap

/-- Lists that are related to a third one are related. -/
theorem forall₂_of_common {α β γ : Type} {R : α → β → Prop} {S : α → γ → Prop} {T : β → γ → Prop} {as : List α}
    {bs : List β} {cs : List γ} (hab : List.Forall₂ R as bs) (hac : List.Forall₂ S as cs)
    (h : ∀ a ∈ as, ∀ b c, R a b → S a c → T b c) : List.Forall₂ T bs cs := by
  induction hab generalizing cs with
  | nil =>
    cases hac
    exact .nil
  | cons hR hab ih =>
    rw [List.forall_mem_cons] at h
    rcases hac with _ | ⟨hS, hac⟩
    exact .cons (h.1 _ _ hR hS) (ih hac h.2)

/-- Methods of one name in a valid class are one method. -/
theorem TestClass.Valid.eq_of_name_eq {c : TestClass σ} (hc : c.Valid) {m m' : TestMethod σ} (hm : m ∈ c.methods)
    (hm' : m' ∈ c.methods) (h : m.name = m'.name) : m = m' := by
  have hfind := method?_of_mem hc hm
  rw [h, method?_of_mem hc hm'] at hfind
  exact (Option.some.inj hfind).symm

/-- The tests of a valid class have different names. -/
theorem TestClass.Valid.nodup_names_tests {c : TestClass σ} (hc : c.Valid) :
    ((c.methodsOf .test ++ c.methodsOf .concurrent).map TestMethod.name).Nodup := by
  have hkind (kind : MethodKind) : ((c.methodsOf kind).map TestMethod.name).Nodup :=
    hc.names_nodup.sublist (List.filter_sublist.map _)
  rw [List.map_append, List.nodup_append]
  refine ⟨hkind .test, hkind .concurrent, ?_⟩
  intro a ha b hb hab
  obtain ⟨m, hm, rfl⟩ := List.mem_map.1 ha
  obtain ⟨m', hm', rfl⟩ := List.mem_map.1 hb
  obtain ⟨hmem, hkind⟩ := mem_methodsOf.1 hm
  obtain ⟨hmem', hkind'⟩ := mem_methodsOf.1 hm'
  rw [hc.eq_of_name_eq hmem hmem' hab, hkind'] at hkind
  cases hkind

namespace RunSummary

variable {s : RunSummary}

theorem isSuccess_iff : s.isSuccess = true ↔ s.failures = [] := by
  simp [isSuccess, failures, List.filter_eq_nil_iff]

/-- Among reports on methods of different names, each one is found by the name of its method. -/
theorem report?_of_mem (h : (s.reports.map fun p => p.method.name).Nodup) {p : TestReport} (hp : p ∈ s.reports) :
    s.report? p.method.name = some p :=
  find?_key_of_nodup h hp

/-- There is no report on what has the name of none of the methods. -/
theorem report?_eq_none_iff {name : String} :
    s.report? name = none ↔ name ∉ s.reports.map fun p => p.method.name := by
  simp [report?, List.find?_eq_none]

end RunSummary

namespace Runner

variable {c : TestClass σ} {x : Explorer σ} {search : Option (Lifecycle σ) → Scheduling} {id : Nat} {primer : Primer}
  {r : Runner σ}

/-- **Whole runs.** A run of the tests of a class ends without a panic, whatever the tests do, and reports each ordinary
test and then each concurrent one, in the order of registration and once. What a report says of a test is what the
test ends with alone, at the start of any process, up to the identities of failures that were raised on the way; and
it is what the report of another run of the runner says. The run is a success exactly if it has no failures. A report
is found by the name of its method, and no report by that of a hook. -/
theorem run_independent (hr : ofClass c ⟨x.engineUnder search id, primer⟩ = .ok r)
    (hx : x.registry.find? c.name = some c)
    (hin : ∀ m ∈ c.methodsOf .concurrent, ¬ exceptionSeparator.toList <:+: m.name.toList) (s : Session) :
    ∃ summary t, (catching r.run).run s.atRest = (.ok summary, t) ∧
      (summary.reports.map fun p => (p.method, p.kind)) =
        ((c.methodsOf .test).map fun m => (m.descriptor, .test)) ++
          (c.methodsOf .concurrent).map (fun m => (m.descriptor, .concurrent)) ∧
      (∀ u : Session, List.Forall₂ (fun m p => ∃ o v, (catching (r.evaluate m)).run u.atRest = (.ok o, v) ∧
        Invoked.Counterpart s.nextFailure u.nextFailure p.outcome o) r.tests summary.reports) ∧
      (summary.isSuccess = true ↔ summary.failures = []) ∧
      (∀ p ∈ summary.reports, summary.report? p.method.name = some p) ∧
      (∀ m ∈ c.methods, m.kind.isTest = false → summary.report? m.name = none) ∧
      ∃ again v, (catching r.run).run t = (.ok again, v) ∧
        List.Forall₂ (fun p q => p.method = q.method ∧ p.kind = q.kind ∧
          Invoked.Counterpart s.nextFailure t.nextFailure p.outcome q.outcome) summary.reports again.reports := by
  obtain ⟨hc, hr'⟩ := ofClass_eq_ok_iff.1 hr
  have htests : r.tests = c.methodsOf .test ++ c.methodsOf .concurrent := by
    rw [hr']
    rfl
  obtain ⟨summary, t, hrun, ht, hall⟩ := exists_run hr hx hin s.resting_atRest
  have hnames : (summary.reports.map fun p => p.method.name) = r.tests.map TestMethod.name :=
    map_eq_map_of_forall₂ (fun m p hp => congrArg Descriptor.name hp.method) hall
  have hnodup : (summary.reports.map fun p => p.method.name).Nodup := by
    rw [hnames, htests]
    exact hc.nodup_names_tests
  refine ⟨summary, t, hrun, ?_, fun u => ?_, RunSummary.isSuccess_iff, fun p hp => RunSummary.report?_of_mem hnodup hp,
    fun m hm hkind => ?_, ?_⟩
  · have hgroup (kind : MethodKind) : ((c.methodsOf kind).map fun m => (m.descriptor, m.kind)) =
        (c.methodsOf kind).map fun m => (m.descriptor, kind) :=
      List.map_congr_left fun m hm => by rw [(TestClass.mem_methodsOf.1 hm).2]
    have hsame : (summary.reports.map fun p => (p.method, p.kind)) = r.tests.map fun m => (m.descriptor, m.kind) :=
      map_eq_map_of_forall₂ (fun m p hp => by rw [hp.method, hp.kind]) hall
    rw [hsame, htests, List.map_append, hgroup, hgroup]
  · have hmem := (List.forall₂_and_left r.tests summary.reports).2 ⟨fun _ hm => hm, hall⟩
    exact hmem.imp fun m p ⟨hm, hp⟩ => hp.exists_alone hr hx hin hm u.resting_atRest
  · rw [RunSummary.report?_eq_none_iff, hnames, htests]
    intro hname
    obtain ⟨m', hm', hname⟩ := List.mem_map.1 hname
    have htest : m' ∈ c.methods ∧ m'.kind.isTest = true := by
      rcases List.mem_append.1 hm' with h | h <;> obtain ⟨h, hkind⟩ := TestClass.mem_methodsOf.1 h
      · exact ⟨h, by rw [hkind]; rfl⟩
      · exact ⟨h, by rw [hkind]; rfl⟩
    rw [hc.eq_of_name_eq htest.1 hm hname, hkind] at htest
    cases htest.2
  · obtain ⟨again, v, hagain, -, hall'⟩ := exists_run hr hx hin ⟨ht.scheduler, Nat.le_refl t.nextFailure⟩
    refine ⟨again, v, hagain, forall₂_of_common hall hall' fun m hm p q hp hq => ?_⟩
    exact ⟨hp.method.trans hq.method.symm, hp.kind.trans hq.kind.symm, hp.counterpart hr hx hin hm hq⟩

/-- An ordinary test that fails, registered behind a concurrent one that panics as it is expected to, and hooks. -/
theorem run_independent_mixed :
    let c := ((((TestClass.empty "Cart" 0).register .before "fills"
        (.sequential fun n => (n + 1, .passes))).register .concurrent "adds"
        (.sequential fun n => (n, .panics ⟨.text "boom", .body⟩)) (some .panic)).register .after "empties"
        .skip).register .test "counts"
        (.sequential fun n => (n, .fails ⟨"LostUpdate", .custom "LostUpdate" "lost" none⟩))
    let x : Explorer Nat := ⟨.ofList [c], {}⟩
    ∃ r summary t, ofClass c ⟨x.engineUnder x.bounds.search 0, ⟨0⟩⟩ = .ok r ∧
      (catching r.run).run Session.start.atRest = (.ok summary, t) ∧
      (summary.reports.map fun p => (p.method, p.kind)) =
        [(⟨"Cart", "counts"⟩, .test), (⟨"Cart", "adds"⟩, .concurrent)] ∧ summary.report? "fills" = none := by
  intro c x
  have hin : ∀ m ∈ c.methodsOf .concurrent, ¬ exceptionSeparator.toList <:+: m.name.toList := by
    intro m hm
    obtain rfl : m = c.methods[1] := List.mem_singleton.1 hm
    change ¬ exceptionSeparator.toList <:+: "adds".toList
    rw [← Text.splitOnce_eq_none_iff]
    cbv
  have hr : ofClass c ⟨x.engineUnder x.bounds.search 0, ⟨0⟩⟩ = .ok ⟨c, ⟨x.engineUnder x.bounds.search 0, ⟨0⟩⟩⟩ := rfl
  have hx : x.registry.find? c.name = some c := Registry.find?_register_self {} c
  obtain ⟨summary, t, hrun, hreports, -, -, -, hhooks, -⟩ := run_independent hr hx hin .start
  exact ⟨_, summary, t, hr, hrun, hreports, hhooks c.methods[0] List.mem_cons_self rfl⟩

end Runner

end Interleave
