import Interleave.Proofs.Engine.Completion
import Interleave.Proofs.Engine.Isolation
import Interleave.Proofs.Lifecycle.Course

/-!
# Violations

A panic of the scheduler in a method leaves the method, whatever was caught and expected there, and ends the course of
the lifecycle.

- `Execution.Violates`: the panics of the scheduler that an execution can end with: one in a method, one in which the
  panic of another thread ends, and an objection to a run that has passed. An execution ends with a panic of the
  scheduler exactly if it is one of these (`Execution.ends_iff_violates`).
- So an exploration reports a violation exactly if the first execution that does not pass violates; if a method has
  panicked in the scheduler, nothing has run behind it (`Explorer.violated_iff`).
-/

namespace Interleave

open Session

variable {σ : Type}

/-! ## Executions -/

theorem Ended.panicked_ne_passed (p : Panic) : Ended.panicked p ≠ .passed := nofun

namespace Execution

variable {e : Execution} {l : Lifecycle σ} {s : Session}

theorem trace_unwound (e : Execution) (s : Session) : (e.unwound s).trace = s.trace := by
  rw [unwound]
  cases e.unwinding with
  | none => rfl
  | some payload => rfl

theorem payload_leaving (e : Execution) (q : Panic) : (e.leaving q).payload = e.unwinding.getD q.payload := by
  rw [leaving]
  cases e.unwinding <;> rfl

theorem origin_leaving_iff {q : Panic} :
    (e.leaving q).origin = .scheduler ↔ q.origin = .scheduler ∨ e.unwinding.isSome := by
  rw [leaving]
  cases e.unwinding <;> simp

/-- A panic that leaves a method ends the execution, unless the scheduler panics in turn, and nothing has run behind the
method. -/
theorem exists_ends_of_panic (hs : s.Undisturbed) {m : TestMethod σ} {passage : Passage σ} {q : Panic}
    (hmem : (m, passage) ∈ l.course e.way) (hq : passage.panic? = some q) :
    ∃ ran t, l.course e.way = ran ++ [(m, passage)] ∧ e.Ends l.runOnce s (.panicked (e.leaving q)) t ∧
      t.trace = s.trace ++ .built l.fixture.name :: (l.course e.way).trace := by
  obtain ⟨hcourse, ran, hran⟩ := (l.orderly_course e.way).exists_append_of_mem hmem hq
  obtain ⟨r, t, hrun, htrace, hpanic⟩ := l.follows_runOnce (s := s.onWay e.way) ⟨hs.exploring, hs.panicked⟩
  obtain rfl : r = .error q := (hpanic q).2 hcourse
  refine ⟨ran, e.unwound t, hran, .panicked hrun, ?_⟩
  rw [trace_unwound, htrace]
  rfl

/-- The panics of the scheduler with which an execution of a lifecycle can end, by what is said of them. -/
inductive Violates (e : Execution) (l : Lifecycle σ) : String → Prop
  /-- it panics in a method that runs; it may panic once more as this panic ends the execution -/
  | method {m : TestMethod σ} {passage : Passage σ} {q : Panic} (hmem : (m, passage) ∈ l.course e.way)
      (hends : passage.ending = .panics q) (horigin : q.origin = .scheduler) :
      Violates e l (e.unwinding.getD q.payload).message
  /-- it panics as the panic of another thread ends the execution -/
  | unwinding {m : TestMethod σ} {passage : Passage σ} {q : Panic} {payload : PanicPayload}
      (hmem : (m, passage) ∈ l.course e.way) (hends : passage.ending = .panics q) (horigin : q.origin = .thread)
      (hunwinding : e.unwinding = some payload) : Violates e l payload.message
  /-- it objects to a run that has passed -/
  | closing {s t : Session} {q : Panic} (hs : s.Undisturbed)
      (hrun : (catching l.runOnce).run (s.onWay e.way) = (.ok (.ok ()), t)) (hclosing : e.closing t.scheduler = some q)
      (horigin : q.origin = .scheduler) : Violates e l q.payload.message

/-- An execution ends with a panic of the scheduler exactly if it violates. -/
theorem ends_iff_violates (hs : s.Undisturbed) {d : String} :
    (∃ q t, e.Ends l.runOnce s (.panicked q) t ∧ q.origin = .scheduler ∧ q.payload.message = d) ↔
      e.Violates l d := by
  constructor
  · rintro ⟨q, t, hends, horigin, rfl⟩
    rcases hends with _ | ⟨hrun, hclosing⟩ | _ | @⟨t, p, hrun⟩
    · exact .closing hs hrun hclosing horigin
    · obtain ⟨r, t, hrun', -, hpanic⟩ := l.follows_runOnce (s := s.onWay e.way) ⟨hs.exploring, hs.panicked⟩
      obtain rfl : r = .error p := congrArg Prod.fst (hrun'.symm.trans hrun)
      -- the panic that has left the run comes from a method; what ends the execution may be one in its wake
      obtain ⟨⟨m, passage⟩, hmem, hp⟩ := List.exists_of_findSome?_eq_some ((hpanic p).1 rfl)
      obtain ⟨hends, hbody⟩ := Passage.panic?_eq_some_iff.1 hp
      rw [payload_leaving]
      cases hp' : p.origin with
      | body => exact absurd hp' hbody
      | scheduler => exact .method hmem hends hp'
      | thread =>
        rw [origin_leaving_iff, hp'] at horigin
        obtain ⟨payload, hunwinding⟩ := Option.isSome_iff_exists.1 (horigin.resolve_left nofun)
        rw [hunwinding]
        exact .unwinding hmem hends hp' hunwinding
  · rintro (⟨hmem, hends, horigin⟩ | ⟨hmem, hends, horigin, hunwinding⟩ | ⟨hs', hrun, hclosing, horigin⟩)
    · have hpanic := Passage.panic?_eq_some_iff.2 ⟨hends, by simp [horigin]⟩
      obtain ⟨-, t, -, ht, -⟩ := exists_ends_of_panic hs hmem hpanic
      exact ⟨_, t, ht, origin_leaving_iff.2 (Or.inl horigin), by rw [payload_leaving]⟩
    · have hpanic := Passage.panic?_eq_some_iff.2 ⟨hends, by simp [horigin]⟩
      obtain ⟨-, t, -, ht, -⟩ := exists_ends_of_panic hs hmem hpanic
      refine ⟨_, t, ht, origin_leaving_iff.2 (Or.inr (by rw [hunwinding]; rfl)), ?_⟩
      rw [payload_leaving, hunwinding, Option.getD_some]
    · -- the run has passed in another session; in this one the scheduler gets to the same objection
      have huniform : Uniform l.runOnce := fun _ _ => l.twin_runOnce
      obtain ⟨b, t, ht, hb⟩ := (Ends.objected hrun hclosing).exists_counterpart huniform hs' hs (Nat.zero_le _)
        (Nat.zero_le _)
      cases hb
      exact ⟨_, t, ht, horigin, rfl⟩

end Execution

/-! ## Explorations -/

theorem Lifecycle.fixture_within (l : Lifecycle σ) (bounds : Bounds) : (l.within bounds).fixture = l.fixture := by
  rw [within]
  split <;> rfl

namespace Explorer

section

variable (x : Explorer σ) (search : Option (Lifecycle σ) → Scheduling) {p : Payload} {a : Arguments}
  (ha : Arguments.read p.tokens = .ok a) {s : Session}
include ha

/-- Behind executions that pass, an execution that does not is what is observed and what runs last. -/
theorem exists_stop_answer {l : Option (Lifecycle σ)} (hl : x.resolve s.catalogue a = .ok l)
    {before after : List Execution} {e : Execution} (hes : search l = .runs (before ++ e :: after))
    (hbefore : ∀ b ∈ before, b.Passes (runWithin x.bounds l)) : ∃ u, u.Undisturbed ∧
      u.trace = s.trace ++ (List.replicate before.length (l.elim [] Lifecycle.wholeTrace)).flatten ∧
      ∀ ended t, e.Ends (runWithin x.bounds l) u ended t → ended ≠ .passed →
        ((x.answerUnder search p).run s).1.observations = [ended.observation t.nextFailure] ∧
        ((x.answerUnder search p).run s).2.trace = t.trace := by
  obtain ⟨log, ended, t, hleads, hanswer, htrace⟩ := x.exists_leads_answer search ha hl hes
  obtain ⟨u, hu, hpassed, hrest⟩ :=
    hleads.exists_behind (uniform_runWithin x.bounds l) (s.logged log).undisturbed_exploring hbefore
  refine ⟨u, hu, hpassed.trace_of_passed (fun _ _ => trace_of_run_runWithin) rfl, fun ended' t' h hbad => ?_⟩
  rcases hrest with _ | ⟨h', _, _⟩ | ⟨h', _⟩
  · obtain ⟨rfl, rfl⟩ := h'.unique h
    exact ⟨by rw [hanswer], htrace⟩
  · exact absurd (h'.unique h).1.symm hbad

/-- **Panics of the scheduler surface.** An exploration of a lifecycle reports a violation exactly if the scheduler goes
through executions of which the first ones pass and the next one ends with the panic of the scheduler that is reported.
If that execution panics in the scheduler in a method that runs, in whatever role and whatever has failed before and is
expected, this is all that is reported, with the text of the panic or, if the scheduler panics once more as the
execution ends, of that one. Nothing has run behind the method. -/
theorem violated_iff {l : Lifecycle σ} (hl : x.resolve s.catalogue a = .ok (some l)) :
    let within := l.within x.bounds
    let answer := (x.answerUnder search p).run s
    (∀ d, .violated d ∈ answer.1.observations ↔ ∃ before e after, search (some l) = .runs (before ++ e :: after) ∧
      (∀ b ∈ before, b.Passes within.runOnce) ∧ e.Violates within d) ∧
    ∀ before e after m passage q, search (some l) = .runs (before ++ e :: after) →
      (∀ b ∈ before, b.Passes within.runOnce) → (m, passage) ∈ within.course e.way → passage.ending = .panics q →
      q.origin = .scheduler →
      answer.1.observations = [.violated (e.unwinding.getD q.payload).message] ∧
      ∃ ran, within.course e.way = ran ++ [(m, passage)] ∧ answer.2.trace = s.trace ++
        (List.replicate before.length l.wholeTrace).flatten ++
          .built l.fixture.name :: (Course.trace ran ++ [.ran m.name]) := by
  intro within answer
  refine ⟨fun d => ⟨fun h => ?_, ?_⟩, ?_⟩
  · obtain ⟨a', l', es, log, q, t, ha', hl', hes, hleads, horigin, hd⟩ := exists_leads_of_violated h
    cases ha.symm.trans ha'
    cases hl.symm.trans hl'
    obtain ⟨before, e, after, u, rfl, hbefore, hu, hends⟩ := hleads.exists_stop (uniform_runWithin x.bounds (some l))
      (s.logged log).undisturbed_exploring (Ended.panicked_ne_passed q)
    exact ⟨before, e, after, hes, hbefore, (Execution.ends_iff_violates hu).1 ⟨q, t, hends, horigin, hd⟩⟩
  · rintro ⟨before, e, after, hes, hbefore, hviolates⟩
    obtain ⟨u, hu, -, hstop⟩ := x.exists_stop_answer search ha hl hes hbefore
    obtain ⟨q, t, hends, horigin, rfl⟩ := (Execution.ends_iff_violates hu).2 hviolates
    rw [(hstop _ t hends (Ended.panicked_ne_passed q)).1, Ended.observation, if_pos horigin]
    exact List.mem_singleton_self _
  · intro before e after m passage q hes hbefore hmem hpanics horigin
    obtain ⟨u, hu, htrace, hstop⟩ := x.exists_stop_answer search ha hl hes hbefore
    have hpanic := Passage.panic?_eq_some_iff.2 ⟨hpanics, by simp [horigin]⟩
    obtain ⟨ran, t, hran, hends, ht⟩ := Execution.exists_ends_of_panic hu hmem hpanic
    obtain ⟨hobservations, hlast⟩ := hstop _ t hends (Ended.panicked_ne_passed _)
    refine ⟨?_, ran, hran, ?_⟩
    · rw [hobservations, Ended.observation, if_pos (Execution.origin_leaving_iff.2 (Or.inl horigin)),
        Execution.payload_leaving]
    · rw [hlast, ht, htrace, hran, Lifecycle.fixture_within, Course.trace, List.map_append]
      rfl

end

/-- A before fails, so that a test that is expected to panic does not run; of the two afters the first one waits for
itself. It is the last to run, and neither the failure nor an unmet expectation is reported. -/
theorem violated_iff_behind_failure :
    let c := (((((TestClass.empty "Cart" ()).register .before "fills" (.sequential fun n =>
        (n, .fails ⟨"LostUpdate", .custom "LostUpdate" "lost" none⟩))).register .concurrent "adds" .skip
        (some .panic)).register .after "empties" (.sequential fun n =>
        (n, .panics ⟨.text "deadlock", .scheduler⟩))).register .after "closes" .skip)
    let x : Explorer Unit := ⟨.ofList [c], {}⟩
    let tokens := [entryPoint, "--testclass=Cart", "--test=method=adds,exception=weft::failure::Panicked",
      "--beforemethod=fills", "--aftermethod=empties", "--aftermethod=closes"]
    ((x.answerUnder (fun _ => .runs [{}]) ⟨tokens⟩).run .start).1.observations = [.violated "deadlock"] ∧
      ((x.answerUnder (fun _ => .runs [{}]) ⟨tokens⟩).run .start).2.trace =
        [.built "Cart", .ran "fills", .ran "empties"] := by
  intro c x tokens
  let a : Arguments := { testClass := some "Cart", test := some ⟨"adds", some "weft::failure::Panicked"⟩,
                         befores := ["fills"], afters := ["empties", "closes"] }
  let l : Lifecycle Unit := { fixture := c.fixture, befores := [c.methods[0]], test := c.methods[1],
                              afters := [c.methods[2], c.methods[3]], expected := some .panic }
  have ha : Arguments.read tokens = .ok a := by cbv
  have hl : x.resolve Session.start.catalogue a = .ok (some l) := rfl
  have hwithin : l.within x.bounds = l := rfl
  have hcourse : l.course ({} : Execution).way =
      [(c.methods[0], { fixture := (), ending := .fails ⟨"LostUpdate", .custom "LostUpdate" "lost" none⟩ })] ++
        [(c.methods[2], { fixture := (), ending := .panics ⟨.text "deadlock", .scheduler⟩ })] := rfl
  have hlast : (c.methods[2], { fixture := (), ending := .panics ⟨.text "deadlock", .scheduler⟩ }) ∈
      l.course ({} : Execution).way := by
    rw [hcourse]
    exact List.mem_append_right _ List.mem_cons_self
  obtain ⟨-, hstop⟩ := x.violated_iff (fun _ => .runs [{}]) (p := ⟨tokens⟩) ha hl
  rw [hwithin] at hstop
  obtain ⟨hobservations, ran, hran, htrace⟩ := hstop [] {} [] _ _ ⟨.text "deadlock", .scheduler⟩ rfl
    (List.forall_mem_nil _) hlast rfl rfl
  rw [hcourse] at hran
  rw [← List.append_cancel_right hran] at htrace
  refine ⟨hobservations, ?_⟩
  rw [htrace]
  rfl

end Explorer

end Interleave
