import Interleave.Proofs.Verdict.Collector

/-!
# The two ways to raise a verdict

A verdict is raised as a failure (`Verdict.failure?`) or as the error of an invocation (`Verdict.check`), and each way
has a text of its own for a violation without a description.

- `Verdict.Reached`: the verdicts to which observations lead: that the test passed, a failure, or a violation that has
  a description. A collector comes to no other verdict (`Collector.finish_eq_ok_iff`).
- What is raised for such a verdict depends on neither text (`Verdict.Reached.cases_cause`), so both ways raise the same
  (`Collector.raised_alike`).
-/

namespace Interleave

/-! ## Verdicts that are reached -/

namespace Verdict

/-- The verdict to which observations lead. -/
inductive Reached (os : List Observation) : Verdict → Prop
  | passed (h : ∀ o ∈ os, o = .completed) : Reached os ⟨true, none, none⟩
  | thrown {f : Failure} (h : os.findSome? Observation.failure? = some f) :
    Reached os ⟨false, some f, os.findSome? Observation.violation?⟩
  | violated {d : String} (hnone : os.findSome? Observation.failure? = none)
    (h : os.findSome? Observation.violation? = some d) : Reached os ⟨false, none, some d⟩

namespace Reached

variable {os : List Observation} {v : Verdict}

theorem exception_eq (h : Reached os v) : v.exception = os.findSome? Observation.failure? := by
  cases h with
  | passed h => exact (Observation.findSome?_eq_none_iff_completed.2 h).1.symm
  | thrown h => exact h.symm
  | violated hnone _ => exact hnone.symm

theorem violation_eq (h : Reached os v) : v.violation = os.findSome? Observation.violation? := by
  cases h with
  | passed h => exact (Observation.findSome?_eq_none_iff_completed.2 h).2.symm
  | thrown _ => rfl
  | violated _ h => exact h.symm

theorem passed_iff (h : Reached os v) : v.passed ↔ v.exception = none ∧ v.violation = none := by
  cases h <;> simp

/-- A verdict that did not pass is raised as a failure that was thrown, as it is, or as one that describes the first
violation; the text for a violation without a description makes no difference. -/
theorem cases_cause (h : Reached os v) (hfailed : ¬ v.passed) :
    (∃ f, v.exception = some f ∧ ∀ text, v.cause text = pure f) ∨
    ∃ d, v.exception = none ∧ v.violation = some d ∧ ∀ text, v.cause text = Session.raise (.unattributed d) := by
  cases h with
  | passed _ => exact absurd rfl hfailed
  | thrown _ => exact Or.inl ⟨_, rfl, fun _ => rfl⟩
  | violated _ _ => exact Or.inr ⟨_, rfl, rfl, fun _ => rfl⟩

end Reached

variable {v : Verdict}

theorem check_of_passed (h : v.passed) : v.check = pure (.ok ()) := if_pos h

theorem check_of_failed (h : ¬ v.passed) :
    v.check = (.error ∘ .testFailed) <$> v.cause "engine reported a failure without a cause" := if_neg h

theorem failure?_of_passed (h : v.passed) : v.failure? = pure none := if_pos h

theorem failure?_of_failed (h : ¬ v.passed) : v.failure? = some <$> v.cause "no description reported" := if_neg h

theorem run_check_eq_ok_iff (v : Verdict) (s : Session) : (v.check.run s).1 = .ok () ↔ v.passed := by
  by_cases h : v.passed
  · rw [check_of_passed h]
    exact iff_of_true rfl h
  · rw [check_of_failed h]
    exact iff_of_false (by simp) h

theorem run_failure?_eq_none_iff (v : Verdict) (s : Session) : (v.failure?.run s).1 = none ↔ v.passed := by
  by_cases h : v.passed
  · rw [failure?_of_passed h]
    exact iff_of_true rfl h
  · rw [failure?_of_failed h]
    exact iff_of_false (by simp) h

end Verdict

/-! ## Collectors -/

namespace Collector

/-- A collector comes to the verdict to which its observations lead, if it has any. -/
theorem finish_eq_ok_iff {os : List Observation} {v : Verdict} :
    (ofList os).finish = .ok v ↔ os ≠ [] ∧ Verdict.Reached os v := by
  rw [ofList_eq, finish]
  by_cases hos : os = []
  · subst hos
    simp
  · have hlength : os.length ≠ 0 := fun h => hos (List.eq_nil_of_length_eq_zero h)
    rw [if_neg hlength]
    refine ⟨fun hv => ⟨hos, ?_⟩, fun ⟨_, h⟩ => ?_⟩
    · cases hv
      cases hthrown : os.findSome? Observation.failure? with
      | some f => exact .thrown hthrown
      | none =>
        cases hviolated : os.findSome? Observation.violation? with
        | some d => exact .violated hthrown hviolated
        | none => exact .passed (Observation.findSome?_eq_none_iff_completed.1 ⟨hthrown, hviolated⟩)
    · rw [← h.exception_eq, ← h.violation_eq]
      cases h <;> rfl

/-- **Two ways, one cause.** Whatever a collector takes in, it comes to a verdict unless that is nothing. The test
passed exactly if the verdict has neither a failure nor a violation, which are the first that were observed. Raised as
the error of an invocation and raised as a failure, wherever that may be, it is an error for both or for neither. If it
is one, both raise the failure that was thrown, the very same; or, if there is none, each raises a new one that
describes the first violation. What a way to raise it would say of a violation without a description makes no
difference. -/
theorem raised_alike (os : List Observation) (r : Session) :
    let c := ((os.foldlM observe {}).run r).1
    (os = [] ∧ c.finish = .error .noObservations) ∨
    ∃ v, c.finish = .ok v ∧
      (v.passed ↔ v.exception = none ∧ v.violation = none) ∧
      v.exception = os.findSome? Observation.failure? ∧ v.violation = os.findSome? Observation.violation? ∧
      (∀ s t : Session, (v.check.run s).1 = .ok () ↔ (v.failure?.run t).1 = none) ∧
      (¬ v.passed →
        ((∃ f, v.exception = some f ∧ ∀ s t : Session,
            (v.check.run s).1 = .error (.testFailed f) ∧ (v.failure?.run t).1 = some f) ∨
          ∃ d, v.exception = none ∧ v.violation = some d ∧ ∀ s t : Session,
            (v.check.run s).1 = .error (.testFailed
              ⟨s.nextFailure, "weft::failure::UnattributedViolation", .unattributed d⟩) ∧
            (v.failure?.run t).1 =
              some ⟨t.nextFailure, "weft::failure::UnattributedViolation", .unattributed d⟩) ∧
        ∀ text text', v.cause text = v.cause text') := by
  intro c
  have hc : c = ofList os := congrArg Prod.fst (run_foldlM_observe {} os r)
  by_cases hos : os = []
  · exact Or.inl ⟨hos, by rw [hc, hos]; rfl⟩
  right
  obtain ⟨v, hv⟩ : ∃ v, (ofList os).finish = .ok v := by
    rw [ofList_eq, finish, if_neg fun h => hos (List.eq_nil_of_length_eq_zero h)]
    exact ⟨_, rfl⟩
  have hreached := (finish_eq_ok_iff.1 hv).2
  refine ⟨v, hc ▸ hv, hreached.passed_iff, hreached.exception_eq, hreached.violation_eq,
    fun s t => (v.run_check_eq_ok_iff s).trans (v.run_failure?_eq_none_iff t).symm, fun hfailed => ?_⟩
  rw [Verdict.check_of_failed hfailed, Verdict.failure?_of_failed hfailed]
  rcases hreached.cases_cause hfailed with ⟨f, hf, hcause⟩ | ⟨d, hf, hd, hcause⟩
  · refine ⟨Or.inl ⟨f, hf, fun s t => ?_⟩, fun text text' => (hcause text).trans (hcause text').symm⟩
    rw [hcause, hcause]
    exact ⟨rfl, rfl⟩
  · refine ⟨Or.inr ⟨d, hf, hd, fun s t => ?_⟩, fun text text' => (hcause text).trans (hcause text').symm⟩
    rw [hcause, hcause]
    exact ⟨rfl, rfl⟩

end Collector

end Interleave
