import Interleave.Proofs.Engine.Writing
import Interleave.Proofs.Event.Truncation
import Interleave.Proofs.Verdict.Collector

/-!
# Exploring in another process

A child process explores a test in a session of its own, writes what it observes as an event, and the event is read
back in a third session.

- Sessions with one catalogue answer a payload alike (`Explorer.answers_alike`).
- An event that is read back reports the same as the observation that it was made from
  (`Observation.sameReport_of_reports`), and observations that report the same have one verdict
  (`Collector.exists_finish_of_sameReport`).
- So whether the test is explored here or in a child makes no difference but to the type of a failure
  (`Explorer.serve_agrees`).
-/

namespace Interleave

/-! ## Reports -/

/-- Failures that report the same of themselves. -/
structure Failure.SameReport (f g : Failure) : Prop where
  typeName : f.typeName = g.typeName
  message : f.message = g.message
  text : f.text = g.text

/-- Observations that report the same. -/
inductive Observation.SameReport : Observation → Observation → Prop
  | completed : SameReport .completed .completed
  | thrown {f g : Failure} (h : f.SameReport g) : SameReport (.thrown f) (.thrown g)
  | violated (description : String) : SameReport (.violated description) (.violated description)

namespace Observation

theorem SameReport.trans {o p q : Observation} (h : o.SameReport p) (h' : p.SameReport q) : o.SameReport q := by
  cases h with
  | completed => exact h'
  | thrown hf =>
    cases h' with
    | thrown hg =>
      exact .thrown ⟨hf.typeName.trans hg.typeName, hf.message.trans hg.message, hf.text.trans hg.text⟩
  | violated d => exact h'

theorem Alike.sameReport {o p : Observation} (h : o.Alike p) : o.SameReport p := by
  cases h with
  | completed => exact .completed
  | thrown h => exact .thrown ⟨h.typeName, h.message, h.text⟩
  | violated d => exact .violated d

/-- A failure that comes from elsewhere reports what it reported there. -/
theorem sameReport_of_reports {captured : Backtraces} {o p : Observation}
    (h : Event.Reports (.ofObservation captured o) p) : o.SameReport p := by
  cases o with
  | completed =>
    obtain rfl : p = .completed := h
    exact .completed
  | thrown f =>
    obtain ⟨id, rfl⟩ := h
    have hmessage : (⟨id, f.typeName, .remote f.typeName f.message (f.backtrace? captured)⟩ : Failure).message =
        f.message := Fault.text_remote _ _ _
    refine .thrown ⟨rfl, hmessage.symm, ?_⟩
    rw [Failure.text_eq, Failure.text_eq, hmessage]
  | violated d =>
    obtain rfl : p = .violated d := h
    exact .violated d

end Observation

/-- The line that is written for an observation is read as its event. -/
theorem Session.ofBytes_line (s : Session) (o : Observation) :
    Event.ofBytes (s.line o) = ([.ofObservation s.backtraces o], .complete) := by
  rw [line, ← List.append_nil (Event.bytes _), Event.ofBytes_bytes_append]
  rfl

/-- The verdict on observations that report the same is the same. -/
theorem Collector.exists_finish_of_sameReport {o p : Observation} (h : o.SameReport p) :
    ∃ v w, (ofList [o]).finish = .ok v ∧ (ofList [p]).finish = .ok w ∧
      ∀ s t : Session, ((v.check.run s).1 = .ok () ↔ (w.check.run t).1 = .ok ()) := by
  cases h with
  | completed => exact ⟨_, _, rfl, rfl, fun s t => Iff.rfl⟩
  | thrown h => exact ⟨_, _, rfl, rfl, fun s t => iff_of_false nofun nofun⟩
  | violated d => exact ⟨_, _, rfl, rfl, fun s t => iff_of_false nofun nofun⟩

/-! ## Serving -/

namespace Explorer

variable {σ : Type}

/-- The observation of the explorer is written to an output that takes everything. -/
theorem run_serveUnder_of_observed {x : Explorer σ} {search : Option (Lifecycle σ) → Scheduling}
    {tokens : List String} {s : Session} {o : Observation}
    (h : ((x.answerUnder search ⟨tokens⟩).run s).1 = { observations := [o] }) :
    ((serveUnder x search tokens {}).run s).1 =
      ({ tried := [s.line o], written := s.line o }, .ok ()) := by
  rw [run_serveUnder_of_takes h rfl, Sink.after, List.flatten_singleton]
  rfl

variable (x : Explorer σ) (search : Option (Lifecycle σ) → Scheduling)

/-- **Two processes, one verdict.** A test is explored here, and in a child process that writes to an output that takes
everything; the sessions have nothing in common but the catalogue. Either there is one observation here, and what the
child has written is read back, in any session, as one observation that reports the same and has the same verdict. Or
there is an error here, and the child ends with that error and has written nothing, so that nothing is observed. -/
theorem serve_agrees (tokens : List String) (known : Catalogue) (s t : Session) :
    let here := ((x.answerUnder search ⟨tokens⟩).run { s with catalogue := known }).1
    let there := ((serveUnder x search tokens {}).run { t with catalogue := known }).1
    (∃ o event, here = { observations := [o] } ∧ there.2 = .ok () ∧
      Event.ofBytes there.1.written = ([event], .complete) ∧
      ∀ u : Session, ∃ p, (([event].mapM Event.observation).run u).1 = [p] ∧ o.SameReport p ∧
        ∃ v w, (Collector.ofList [o]).finish = .ok v ∧ (Collector.ofList [p]).finish = .ok w ∧
          ∀ s' t' : Session, ((v.check.run s').1 = .ok () ↔ (w.check.run t').1 = .ok ())) ∨
    ∃ e, here = .failed e ∧ there.2 = .error e ∧ there.1.written = [] ∧
      Event.ofBytes there.1.written = ([], .complete) ∧ (Collector.ofList []).finish = .error .noObservations := by
  intro here there
  rcases x.answers_alike search ⟨tokens⟩ (s := { s with catalogue := known }) (t := { t with catalogue := known }) rfl
    with ⟨e, hs, ht⟩ | ⟨o, o', hs, ht, halike⟩
  · have hserve : there = ({}, .error e) := run_serveUnder_of_failed ht {}
    refine Or.inr ⟨e, hs, ?_⟩
    rw [hserve]
    exact ⟨rfl, rfl, rfl, rfl⟩
  · have hserve : there = (_, .ok ()) := run_serveUnder_of_observed ht
    refine Or.inl ⟨o, .ofObservation t.backtraces o', hs, ?_⟩
    rw [hserve]
    refine ⟨rfl, Session.ofBytes_line _ _, fun u => ?_⟩
    obtain ⟨p, ps, hreports, hps, hp⟩ :=
      List.forall₂_cons_left_iff.1 (Event.forall₂_reports_mapM [.ofObservation t.backtraces o'] u)
    obtain rfl : ps = [] := List.forall₂_nil_left_iff.1 hps
    have hreport : o.SameReport p := halike.sameReport.trans (Observation.sameReport_of_reports hreports)
    exact ⟨p, hp, hreport, Collector.exists_finish_of_sameReport hreport⟩

end Explorer

end Interleave
