import Interleave.Proofs.Lifecycle.Methods

/-!
# What lifecycles end with

A run of a lifecycle is a row of methods on one fixture, each of which finds what the one before it has left.

- `leftBy`, `firstFailure?`: what a row of methods leaves, and the first failure in it.
- `Judged`: what an expectation makes of the end of a test.
- A failing before ends the row of befores, and nothing ends the row of afters (`exists_run_invokeUntilFailure_append`,
  `exists_run_invokeAll`).
- So the first failure is the outcome, with the expectation applied to the test alone, and all afters run
  (`Lifecycle.runWith_keeps_first_failure`).
-/

namespace Interleave

variable {σ : Type}

/-! ## Rows of methods -/

namespace TestMethod

/-- No panic leaves the method, whichever way it goes. -/
def Returns (m : TestMethod σ) : Prop := ∀ s, ∀ p ∈ m.body.passages s, p.returns

theorem Returns.returns_passage {m : TestMethod σ} (hm : m.Returns) (way : List Nat) (s : σ) :
    (m.passage way s).returns := by
  refine hm s _ ?_
  rw [passage, Body.run]
  cases h : (m.body.passages s)[way.headD 0]? with
  | none => exact List.mem_cons_self
  | some p => exact List.mem_of_getElem? h

end TestMethod

/-- What methods leave that run one behind the other. -/
def leftBy (ms : List (TestMethod σ)) (a : Standing σ) : Standing σ := ms.foldl (fun a m => m.leaves a) a

/-- The first failure of methods that run one behind the other. -/
def firstFailure? : List (TestMethod σ) → Standing σ → Option Failure
  | [], _ => none
  | m :: ms, a => (m.failure? a).or (firstFailure? ms (m.leaves a))

theorem leftBy_append (ms ns : List (TestMethod σ)) (a : Standing σ) :
    leftBy (ms ++ ns) a = leftBy ns (leftBy ms a) := List.foldl_append

theorem firstFailure?_cons_eq_none_iff {m : TestMethod σ} {ms : List (TestMethod σ)} {a : Standing σ} :
    firstFailure? (m :: ms) a = none ↔ m.failure? a = none ∧ firstFailure? ms (m.leaves a) = none :=
  Option.or_eq_none_iff

/-- Of methods one of which fails there is a first that does. -/
theorem exists_append_of_firstFailure? {ms : List (TestMethod σ)} {a : Standing σ} {f : Failure}
    (h : firstFailure? ms a = some f) : ∃ ran m skipped, ms = ran ++ m :: skipped ∧ firstFailure? ran a = none ∧
      m.failure? (leftBy ran a) = some f := by
  induction ms generalizing a with
  | nil => cases h
  | cons m ms ih =>
    rw [firstFailure?] at h
    cases hm : m.failure? a with
    | some g =>
      rw [hm, Option.some_or] at h
      exact ⟨[], m, ms, rfl, rfl, hm.trans h⟩
    | none =>
      rw [hm, Option.none_or] at h
      obtain ⟨ran, m', skipped, rfl, hran, hfails⟩ := ih h
      exact ⟨m :: ran, m', skipped, rfl, firstFailure?_cons_eq_none_iff.2 ⟨hm, hran⟩, hfails⟩

/-! ## Expectations -/

/-- What an expectation makes of the failure of a test, or of there being none, if the next failure has the identity
`id`; at the end stands the next identity behind it. Two failures are its own: that of a test which should have failed
and did not, and that of a test which failed otherwise. -/
inductive Judged (id : Nat) : Option Expectation → Option Failure → Option Failure → Nat → Prop
  | unexpecting (f : Option Failure) : Judged id none f f id
  | missing (e : Expectation) : Judged id (some e) none
      (some ⟨id, "weft::failure::MissingExpectedFailure", .missing e.typeName⟩) (id + 1)
  | met {e : Expectation} {f : Failure} (h : f.is e.typeName) : Judged id (some e) (some f) none id
  | unexpected {e : Expectation} {f : Failure} (h : ¬ f.is e.typeName) : Judged id (some e) (some f)
      (some ⟨id, "weft::failure::UnexpectedFailure", .unexpected e.typeName f⟩) (id + 1)

/-- To hold an outcome against an expectation is to judge it. -/
theorem exists_run_meetExpectation (expected : Option Expectation) (f : Option Failure) (s : Session) :
    ∃ g next, Judged s.nextFailure expected f g next ∧
      (meetExpectation expected (.ofFailure? f)).run s = (.ofFailure? g, { s with nextFailure := next }) := by
  cases expected with
  | none => exact ⟨f, _, .unexpecting f, rfl⟩
  | some e =>
    cases f with
    | none => exact ⟨_, _, .missing e, rfl⟩
    | some f =>
      by_cases h : e.meets f
      · refine ⟨none, _, .met h, ?_⟩
        simp only [Outcome.ofFailure?, meetExpectation, if_pos h]
        rfl
      · refine ⟨_, _, .unexpected h, ?_⟩
        simp only [Outcome.ofFailure?, meetExpectation, if_neg h]
        rfl

/-! ## Runs -/

section Runs

variable {s : Session} (hs : s.Calm)
include hs

/-- Methods that run whether they fail or not leave what they leave one behind the other, and their first failure, if
there was none before. -/
theorem exists_run_invokeAll {ms : List (TestMethod σ)} (hms : s.scheduler.exploring = true → ∀ m ∈ ms, m.Returns)
    (fixture : σ) (f : Option Failure) : ∃ leaked, (catching (invokeAll ms fixture (.ofFailure? f))).run s =
      (.ok ((leftBy ms (s.standing fixture)).fixture,
        .ofFailure? (f.or (firstFailure? ms (s.standing fixture)))),
        s.behind ms (leftBy ms (s.standing fixture)) leaked) := by
  induction ms generalizing s fixture f with
  | nil =>
    refine ⟨s.scheduler.leaked, ?_⟩
    rw [firstFailure?, Option.or_none]
    exact congrArg _ (s.behind_nil fixture).symm
  | cons m ms ih =>
    obtain ⟨leaked, hm⟩ := TestMethod.exists_run_invoke_of_calm hs
      (fun he => (hms he m List.mem_cons_self).returns_passage _ fixture)
    obtain ⟨leaked', hrest⟩ := ih (hs.behind [m] (m.leaves (s.standing fixture)) leaked)
      (fun he m' hm' => hms he m' (List.mem_cons_of_mem _ hm')) (m.leaves (s.standing fixture)).fixture
      (f.or (m.failure? (s.standing fixture)))
    refine ⟨leaked', ?_⟩
    rw [invokeAll, catching_bind_of_ok hm]
    dsimp only
    rw [Outcome.orElse_ofFailure?, hrest, Session.standing_behind, Session.behind_behind, Option.or_assoc]
    rfl

/-- Methods that pass come before those that are left. -/
theorem exists_run_invokeUntilFailure_append {ran : List (TestMethod σ)}
    (hran : s.scheduler.exploring = true → ∀ m ∈ ran, m.Returns) (fixture : σ)
    (hpass : firstFailure? ran (s.standing fixture) = none) (rest : List (TestMethod σ)) :
    ∃ leaked, (catching (invokeUntilFailure (ran ++ rest) fixture)).run s =
      (catching (invokeUntilFailure rest (leftBy ran (s.standing fixture)).fixture)).run
        (s.behind ran (leftBy ran (s.standing fixture)) leaked) := by
  induction ran generalizing s fixture with
  | nil =>
    refine ⟨s.scheduler.leaked, ?_⟩
    rw [leftBy, List.foldl_nil, s.behind_nil]
    rfl
  | cons m ran ih =>
    obtain ⟨hm, hpass⟩ := firstFailure?_cons_eq_none_iff.1 hpass
    obtain ⟨leaked, hrun⟩ := TestMethod.exists_run_invoke_of_calm hs
      (fun he => (hran he m List.mem_cons_self).returns_passage _ fixture)
    rw [hm] at hrun
    obtain ⟨leaked', hrest⟩ := ih (hs.behind [m] (m.leaves (s.standing fixture)) leaked)
      (fun he m' hm' => hran he m' (List.mem_cons_of_mem _ hm')) (m.leaves (s.standing fixture)).fixture hpass
    refine ⟨leaked', ?_⟩
    rw [List.cons_append, invokeUntilFailure, catching_bind_of_ok hrun]
    exact hrest.trans (by rw [Session.standing_behind, Session.behind_behind]; rfl)

/-- The first before that fails is the last that runs. -/
theorem exists_run_invokeUntilFailure_of_failure {ran : List (TestMethod σ)} {m : TestMethod σ} {f : Failure}
    (hms : s.scheduler.exploring = true → ∀ m' ∈ ran ++ [m], m'.Returns) (skipped : List (TestMethod σ)) (fixture : σ)
    (hpass : firstFailure? ran (s.standing fixture) = none)
    (hm : m.failure? (leftBy ran (s.standing fixture)) = some f) :
    ∃ leaked, (catching (invokeUntilFailure (ran ++ m :: skipped) fixture)).run s =
      (.ok ((leftBy (ran ++ [m]) (s.standing fixture)).fixture, .error f),
        s.behind (ran ++ [m]) (leftBy (ran ++ [m]) (s.standing fixture)) leaked) := by
  obtain ⟨leaked, hran⟩ := exists_run_invokeUntilFailure_append hs
    (fun he m' hm' => hms he m' (List.mem_append_left _ hm')) fixture hpass (m :: skipped)
  obtain ⟨leaked', hrun⟩ := TestMethod.exists_run_invoke_of_calm (m := m)
    (hs.behind ran (leftBy ran (s.standing fixture)) leaked)
    (fun he => (hms he m List.mem_concat_self).returns_passage _ (leftBy ran (s.standing fixture)).fixture)
  rw [Session.standing_behind, hm, Session.behind_behind] at hrun
  refine ⟨leaked', ?_⟩
  rw [hran, invokeUntilFailure, catching_bind_of_ok hrun, leftBy_append]
  rfl

namespace Lifecycle

variable {l : Lifecycle σ} (hl : s.scheduler.exploring = true → ∀ m ∈ l.befores ++ l.test :: l.afters, m.Returns)
include hl

/-- Behind a before that fails come the afters, and nothing that they do changes the outcome. -/
theorem exists_run_runWith_of_failure {ran skipped : List (TestMethod σ)} {m : TestMethod σ} {f : Failure}
    (hbefores : l.befores = ran ++ m :: skipped) (fixture : σ)
    (hpass : firstFailure? ran (s.standing fixture) = none)
    (hm : m.failure? (leftBy ran (s.standing fixture)) = some f) :
    ∃ leaked, (catching (l.runWith fixture)).run s =
      (.ok ((leftBy (ran ++ m :: l.afters) (s.standing fixture)).fixture, .error f),
        s.behind (ran ++ m :: l.afters) (leftBy (ran ++ m :: l.afters) (s.standing fixture)) leaked) := by
  have hran : ran ++ [m] ⊆ ran ++ m :: skipped := by
    rw [List.append_cons ran m skipped]
    exact List.subset_append_left _ _
  obtain ⟨leaked, hrun⟩ := exists_run_invokeUntilFailure_of_failure hs
    (fun he m' hm' => hl he m' (List.mem_append_left _ (hbefores ▸ hran hm'))) skipped fixture hpass hm
  obtain ⟨leaked', hafters⟩ := exists_run_invokeAll
    (hs.behind (ran ++ [m]) (leftBy (ran ++ [m]) (s.standing fixture)) leaked)
    (fun he m' hm' => hl he m' (List.mem_append_right _ (List.mem_cons_of_mem _ hm')))
    (leftBy (ran ++ [m]) (s.standing fixture)).fixture (some f)
  rw [Session.standing_behind, Session.behind_behind, ← leftBy_append, List.append_assoc] at hafters
  refine ⟨leaked', ?_⟩
  rw [runWith, runToTest, bind_assoc, hbefores, catching_bind_of_ok hrun]
  exact hafters

/-- Behind befores that pass come the test and the afters. -/
theorem exists_run_runWith_of_pass (fixture : σ) (hpass : firstFailure? l.befores (s.standing fixture) = none) :
    let t := leftBy l.befores (s.standing fixture)
    let u := l.test.leaves t
    ∃ g next leaked, Judged u.next l.expected (l.test.failure? t) g next ∧
      let v := { u with next }
      (catching (l.runWith fixture)).run s =
        (.ok ((leftBy l.afters v).fixture, .ofFailure? (g.or (firstFailure? l.afters v))),
          s.behind (l.befores ++ l.test :: l.afters) (leftBy l.afters v) leaked) := by
  intro t u
  obtain ⟨leaked, hbefores⟩ := exists_run_invokeUntilFailure_append hs
    (fun he m hm => hl he m (List.mem_append_left _ hm)) fixture hpass []
  obtain ⟨leaked', htest⟩ := TestMethod.exists_run_invoke_of_calm (hs.behind l.befores t leaked)
    (fun he => (hl he l.test (List.mem_append_right _ List.mem_cons_self)).returns_passage _ t.fixture)
  obtain ⟨g, next, hjudged, hmeet⟩ := exists_run_meetExpectation l.expected (l.test.failure? t)
    (s.behind (l.befores ++ [l.test]) u leaked')
  let v := { u with next }
  obtain ⟨leaked'', hafters⟩ := exists_run_invokeAll (hs.behind (l.befores ++ [l.test]) v leaked')
    (fun he m hm => hl he m (List.mem_append_right _ (List.mem_cons_of_mem _ hm))) v.fixture g
  rw [List.append_nil] at hbefores
  rw [Session.standing_behind, Session.behind_behind] at htest
  rw [Session.standing_behind, Session.behind_behind, List.append_assoc] at hafters
  refine ⟨g, next, leaked'', hjudged, ?_⟩
  rw [runWith, runToTest, bind_assoc, catching_bind_of_ok hbefores]
  dsimp only
  rw [bind_assoc, catching_bind_of_ok htest]
  dsimp only
  rw [bind_assoc, catching_bind_lift, hmeet, pure_bind]
  exact hafters

end Lifecycle

end Runs

namespace Lifecycle

/-- **The first failure is the outcome.** On any fixture, the befores run up to the first that fails, the test runs if
none has failed, and all afters run; each finds what the one before it has left. The outcome is the failure of that
before, whatever the expectation is and the afters do. If no before fails, it is what the expectation makes of the test
or, if that is no failure, the first failure of the afters, of which the expectation knows nothing. -/
theorem runWith_keeps_first_failure (l : Lifecycle σ) (fixture : σ) {s : Session} (hs : s.Calm)
    (hl : s.scheduler.exploring = true → ∀ m ∈ l.befores ++ l.test :: l.afters, m.Returns) :
    let a := s.standing fixture
    (∀ f, firstFailure? l.befores a = some f → ∃ ran m skipped leaked, l.befores = ran ++ m :: skipped ∧
      firstFailure? ran a = none ∧ m.failure? (leftBy ran a) = some f ∧
      (catching (l.runWith fixture)).run s = (.ok ((leftBy (ran ++ m :: l.afters) a).fixture, .error f),
        s.behind (ran ++ m :: l.afters) (leftBy (ran ++ m :: l.afters) a) leaked)) ∧
    (firstFailure? l.befores a = none →
      let t := leftBy l.befores a
      let u := l.test.leaves t
      ∃ g next leaked, Judged u.next l.expected (l.test.failure? t) g next ∧
        let v := { u with next }
        (catching (l.runWith fixture)).run s =
          (.ok ((leftBy l.afters v).fixture, .ofFailure? (g.or (firstFailure? l.afters v))),
            s.behind (l.befores ++ l.test :: l.afters) (leftBy l.afters v) leaked)) := by
  intro a
  refine ⟨fun f hf => ?_, exists_run_runWith_of_pass hs hl fixture⟩
  obtain ⟨ran, m, skipped, hbefores, hran, hm⟩ := exists_append_of_firstFailure? hf
  obtain ⟨leaked, hrun⟩ := exists_run_runWith_of_failure hs hl hbefores fixture hran hm
  exact ⟨ran, m, skipped, leaked, hbefores, hran, hm, hrun⟩

/-- A test that panics as expected on what its before has left, and two afters that fail: the first of them is the
outcome, and the second one runs, too. -/
theorem runWith_keeps_first_failure_of_afters :
    let fills : TestMethod Nat := ⟨⟨"Cart", "fills"⟩, .before, .sequential fun n => (n + 1, .passes), none⟩
    let adds : TestMethod Nat := ⟨⟨"Cart", "adds"⟩, .test,
      .sequential fun n => (n + 1, if n = 0 then .passes else .panics ⟨.text "full", .body⟩), some .panic⟩
    let empties : TestMethod Nat := ⟨⟨"Cart", "empties"⟩, .after,
      .sequential fun n => (n * 10, .fails ⟨"Leftover", .custom "Leftover" "not empty" none⟩), none⟩
    let closes : TestMethod Nat := ⟨⟨"Cart", "closes"⟩, .after,
      .sequential fun n => (n + 3, .fails ⟨"Stuck", .custom "Stuck" "not closed" none⟩), none⟩
    let l : Lifecycle Nat := { fixture := ⟨"Cart", 0⟩, befores := [fills], test := adds, afters := [empties, closes],
                               expected := some .panic }
    ∃ t, (catching (l.runWith 0)).run .start =
        (.ok (23, .error ⟨1, "Leftover", .custom "Leftover" "not empty" none⟩), t) ∧
      t.trace = [.ran "fills", .ran "adds", .ran "empties", .ran "closes"] := by
  intro fills adds empties closes l
  obtain ⟨-, hpass⟩ := l.runWith_keeps_first_failure 0 (s := .start) nofun nofun
  obtain ⟨g, next, leaked, hjudged, hrun⟩ := hpass rfl
  have hfails : l.test.failure? (leftBy l.befores (Session.start.standing 0)) =
      some ⟨0, "weft::failure::Panicked", .panicked "full"⟩ := rfl
  rw [hfails] at hjudged
  cases hjudged with
  | met _ => exact ⟨_, hrun, rfl⟩
  | unexpected h =>
    refine absurd ((Failure.is_iff _ _).2 ⟨.panicked "full", ?_, rfl⟩) h
    rw [Fault.chain_eq]
    exact List.mem_cons_self

end Lifecycle

end Interleave
