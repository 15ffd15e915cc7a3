import Interleave.Serve
import Interleave.Proofs.Engine.Exploration
import Interleave.Proofs.Engine.Serving
import Interleave.Proofs.Lifecycle.Steps
import Interleave.Proofs.Payload.RoundTrip

/-!
# What it takes to complete

An explorer observes that a test completed if every execution passes. This says that the test has run if there are
executions, and if they run anything.

- Executions that lead to a pass have each run every method of the lifecycle, on one fixture each
  (`Leads.trace_of_passed`), and a lifecycle has at least one way to run (`Bounds.search_ne_runs_nil`).
- Tokens that can be read name a class and a test, or neither (`Arguments.cases_of_read`).
- So tokens that name a class or a test complete only if the test has run (`Explorer.completes_iff`). Tokens that name
  neither complete though nothing has run, whatever else they say (`Explorer.completes_of_asks_nothing`).
-/

namespace Interleave

variable {σ : Type}

/-! ## Executions that pass -/

/-- The bounds of an exploration have no say in what a lifecycle runs. -/
theorem Lifecycle.wholeTrace_within (l : Lifecycle σ) (bounds : Bounds) :
    (l.within bounds).wholeTrace = l.wholeTrace := by
  have hname (m : TestMethod σ) : m.withoutBranches.name = m.name := rfl
  rw [within]
  split
  · simp only [wholeTrace, plan, List.map_map, Function.comp_def, hname]
  · rfl

/-- What an execution runs leaves the whole lifecycle in the trace if it passes, and nothing for a warm-up. -/
theorem trace_of_run_runWithin {bounds : Bounds} {l : Option (Lifecycle σ)} {s t : Session}
    (h : (catching (runWithin bounds l)).run s = (.ok (.ok ()), t)) :
    t.trace = s.trace ++ l.elim [] Lifecycle.wholeTrace := by
  cases l with
  | none =>
    cases h
    exact (List.append_nil _).symm
  | some l =>
    rw [Option.elim_some, ← l.wholeTrace_within bounds]
    exact Lifecycle.trace_of_run_runOnce h

/-- Executions that lead to a pass have each left in the trace what a run that passes leaves there. -/
theorem Leads.trace_of_passed {run : Action Outcome} {ts : List Trace}
    (hrun : ∀ s t : Session, (catching run).run s = (.ok (.ok ()), t) → t.trace = s.trace ++ ts) {s t : Session}
    {es : List Execution} {ended : Ended} (h : Leads run s es ended t) (hended : ended = .passed) :
    t.trace = s.trace ++ (List.replicate es.length ts).flatten := by
  induction h with
  | nil s => exact (List.append_nil _).symm
  | stop h hbad es => exact absurd hended hbad
  | @next s t u e es ended h hes ih =>
    rcases h with ⟨hpassed, -⟩ | _ | _ | _
    have htrace : t.trace = s.trace ++ ts := hrun (s.onWay e.way) t hpassed
    rw [ih hended, htrace, List.length_cons, List.replicate_succ, List.flatten_cons, List.append_assoc]

/-- Methods have a way to run, whether they fail or not. -/
theorem Lifecycle.waysAll_ne_nil (ms : List (TestMethod σ)) (fixture : σ) : waysAll ms fixture ≠ [] := by
  induction ms generalizing fixture with
  | nil => exact List.cons_ne_nil _ _
  | cons m ms ih =>
    rw [waysAll, Body.passages, List.zipIdx_cons, List.flatMap_cons]
    refine List.append_ne_nil_of_left_ne_nil ?_ _
    dsimp only
    split
    · simpa using ih _
    · exact List.cons_ne_nil _ _

/-- Methods have a way to run up to the first that fails. -/
theorem Lifecycle.waysUntilFailure_ne_nil (rest last ms : List (TestMethod σ)) (fixture : σ) :
    waysUntilFailure rest last ms fixture ≠ [] := by
  induction ms generalizing fixture with
  | nil => exact waysAll_ne_nil _ fixture
  | cons m ms ih =>
    rw [waysUntilFailure, Body.passages, List.zipIdx_cons, List.flatMap_cons]
    refine List.append_ne_nil_of_left_ne_nil ?_ _
    dsimp only
    split
    · simpa using ih _
    · split
      · simpa using waysAll_ne_nil last _
      · exact List.cons_ne_nil _ _

/-- A lifecycle has a way to run. -/
theorem Lifecycle.ways_ne_nil (l : Lifecycle σ) : l.ways ≠ [] := waysUntilFailure_ne_nil _ _ _ _

/-- The scheduler of the explorer goes through at least one execution, if it starts. -/
theorem Bounds.search_ne_runs_nil (bounds : Bounds) (l : Option (Lifecycle σ)) : bounds.search l ≠ .runs [] := by
  unfold search
  cases bounds.refusal with
  | some reason => simp
  | none =>
    cases l with
    | none => simp
    | some l => simpa using (l.within bounds).ways_ne_nil

/-! ## What tokens ask for -/

/-- Tokens that can be read name a class and a test, or neither. -/
theorem Arguments.cases_of_read {tokens : List String} {a : Arguments} (h : read tokens = .ok a) :
    a.testClass = none ∧ a.test = none ∧ a.checkedTest? = none ∨ ∃ t, a.checkedTest? = some t := by
  rw [read] at h
  cases hread : readTokens {} (tokens.drop 1) with
  | error e =>
    rw [hread] at h
    cases h
  | ok b =>
    rw [hread] at h
    obtain ⟨_ | c, _ | t, befores, afters⟩ := b
    · cases h
      exact Or.inl ⟨rfl, rfl, rfl⟩
    · cases h
    · cases h
    · cases h
      exact Or.inr ⟨_, rfl⟩

namespace Explorer

/-- Arguments that name no test are resolved to nothing that runs. -/
theorem resolve_of_asks_nothing (x : Explorer σ) {a : Arguments} (ha : a.checkedTest? = none) (known : Catalogue) :
    x.resolve known a = .ok none := by
  rw [resolve, ha]

/-- Arguments that name a test are resolved to a lifecycle exactly if the class is registered and has it. -/
theorem resolve_eq_ok_iff {x : Explorer σ} {a : Arguments} {t : CheckedTest} (ha : a.checkedTest? = some t)
    {known : Catalogue} {l : Option (Lifecycle σ)} : x.resolve known a = .ok l ↔
      ∃ c l', x.registry.find? t.className = some c ∧ c.resolve known t = .ok l' ∧ l = some l' := by
  rw [resolve, ha]
  dsimp only
  cases x.registry.find? t.className with
  | none => simp
  | some c =>
    cases hl : c.resolve known t with
    | error e => simp [hl]
    | ok l' => simp [hl, eq_comm]

/-! ## Completed tests -/

/-- What a child writes holds the event of a completed test exactly if the explorer observes one. -/
theorem completed_mem_served_iff (x : Explorer σ) (search : Option (Lifecycle σ) → Scheduling)
    (tokens : List String) (s : Session) :
    Event.completed ∈ (Event.ofBytes ((serveUnder x search tokens {}).run s).1.1.written).1 ↔
      ((x.answerUnder search ⟨tokens⟩).run s).1.observations = [.completed] := by
  rcases x.cases_answer search ⟨tokens⟩ s with ⟨e, he⟩ | ⟨-, -, -, -, ended, t, -, -, -, -, hanswer, -⟩
  · rw [run_serveUnder_of_failed he {}, he]
    exact iff_of_false List.not_mem_nil (List.cons_ne_nil _ _).symm
  · rw [run_serveUnder_of_observed hanswer, hanswer]
    generalize ended.observation t.nextFailure = o
    simp only [s.ofBytes_line, List.mem_singleton, List.cons.injEq, and_true]
    cases o <;> simp [Event.ofObservation, Event.ofFailure]

/-- An explorer observes that a test completed exactly if it can resolve the payload and every execution passes. -/
theorem observes_completed_iff (x : Explorer σ) (search : Option (Lifecycle σ) → Scheduling) (p : Payload)
    (s : Session) : ((x.answerUnder search p).run s).1.observations = [.completed] ↔
      ∃ a l es, Arguments.read p.tokens = .ok a ∧ x.resolve s.catalogue a = .ok l ∧ search l = .runs es ∧
        ∀ e ∈ es, e.Passes (runWithin x.bounds l) := by
  constructor
  · intro h
    rcases x.cases_answer search p s with ⟨e, he⟩ | ⟨a, l, es, log, ended, t, ha, hl, hes, hleads, hanswer, -⟩
    · rw [he] at h
      cases h
    · rw [hanswer] at h
      have hpassed : ended = .passed := (ended.observed_observation _).eq_completed_iff.1 (List.singleton_inj.1 h)
      have hundisturbed := Session.undisturbed_exploring (s.logged log)
      exact ⟨a, l, es, ha, hl, hes, (hleads.eq_passed_iff (uniform_runWithin x.bounds l) hundisturbed).1 hpassed⟩
  · rintro ⟨a, l, es, ha, hl, hes, hpasses⟩
    obtain ⟨log, ended, t, hleads, hanswer, -⟩ := x.exists_leads_answer search ha hl hes
    have hundisturbed := Session.undisturbed_exploring (s.logged log)
    obtain rfl : ended = .passed := (hleads.eq_passed_iff (uniform_runWithin x.bounds l) hundisturbed).2 hpasses
    rw [hanswer]
    rfl

/-- Where a test is observed to have completed, each execution has run the whole lifecycle, if there is one. -/
theorem trace_of_observes_completed {x : Explorer σ} {search : Option (Lifecycle σ) → Scheduling} {p : Payload}
    {s : Session} (h : ((x.answerUnder search p).run s).1.observations = [.completed]) {a : Arguments}
    (ha : Arguments.read p.tokens = .ok a) {l : Option (Lifecycle σ)} (hl : x.resolve s.catalogue a = .ok l)
    {es : List Execution} (hes : search l = .runs es) : ((x.answerUnder search p).run s).2.trace =
      s.trace ++ (List.replicate es.length (l.elim [] Lifecycle.wholeTrace)).flatten := by
  obtain ⟨log, ended, t, hleads, hanswer, htrace⟩ := x.exists_leads_answer search ha hl hes
  rw [hanswer] at h
  have hpassed : ended = .passed := (ended.observed_observation _).eq_completed_iff.1 (List.singleton_inj.1 h)
  rw [htrace]
  exact hleads.trace_of_passed (fun _ _ => trace_of_run_runWithin) hpassed

/-- Tokens that name neither a class nor a test complete, though nothing runs. -/
theorem completes_of_asks_nothing (x : Explorer σ) (hb : x.bounds.Startable) {tokens : List String} {a : Arguments}
    (ha : Arguments.read tokens = .ok a) (hnone : a.checkedTest? = none) (s : Session) :
    let answer := (x.answer ⟨tokens⟩).run s
    answer.1.observations = [.completed] ∧ answer.2.trace = s.trace := by
  intro answer
  obtain ⟨log, hanswer⟩ := x.run_answer (p := ⟨tokens⟩) ha (s := s) (x.resolve_of_asks_nothing hnone _)
  rw [run_explore_none hb] at hanswer
  have hsession : answer = _ := hanswer
  rw [hsession]
  exact ⟨rfl, List.append_nil _⟩

/-- **No test passes without having run, if one is asked for.** A child writes the event of a completed test exactly if
the explorer observes one. The explorer does so exactly if it can read and resolve the tokens and every execution that
the scheduler goes through passes. Then the tokens name neither a class nor a test, and nothing has run; or they name
both, the class is registered, it has the test, and there were executions each of which has run the whole lifecycle of
the test, in order, and has passed. -/
theorem completes_iff (x : Explorer σ) {search : Option (Lifecycle σ) → Scheduling}
    (hsearch : ∀ l, search l ≠ .runs []) (tokens : List String) (s : Session) :
    let answer := (x.answerUnder search ⟨tokens⟩).run s
    (Event.completed ∈ (Event.ofBytes ((serveUnder x search tokens {}).run s).1.1.written).1 ↔
      answer.1.observations = [.completed]) ∧
    (answer.1.observations = [.completed] ↔ ∃ a l es, Arguments.read tokens = .ok a ∧
      x.resolve s.catalogue a = .ok l ∧ search l = .runs es ∧ ∀ e ∈ es, e.Passes (runWithin x.bounds l)) ∧
    (answer.1.observations = [.completed] → ∃ a, Arguments.read tokens = .ok a ∧
      (a.testClass = none ∧ a.test = none ∧ answer.2.trace = s.trace ∨
        ∃ t c l es, a.checkedTest? = some t ∧ x.registry.find? t.className = some c ∧
          c.resolve s.catalogue t = .ok l ∧ search (some l) = .runs es ∧ es ≠ [] ∧
          (∀ e ∈ es, e.Passes (runWithin x.bounds (some l))) ∧
          answer.2.trace = s.trace ++ (List.replicate es.length l.wholeTrace).flatten)) := by
  intro answer
  refine ⟨x.completed_mem_served_iff search tokens s, x.observes_completed_iff search ⟨tokens⟩ s, fun h => ?_⟩
  obtain ⟨a, l, es, ha, hl, hes, hpasses⟩ := (x.observes_completed_iff search ⟨tokens⟩ s).1 h
  have htrace := trace_of_observes_completed h ha hl hes
  refine ⟨a, ha, ?_⟩
  rcases Arguments.cases_of_read ha with ⟨hclass, htest, hnone⟩ | ⟨t, ht⟩
  · rw [x.resolve_of_asks_nothing hnone] at hl
    cases hl
    refine Or.inl ⟨hclass, htest, ?_⟩
    rw [htrace]
    simp
  · obtain ⟨c, l', hc, hl', rfl⟩ := (resolve_eq_ok_iff ht).1 hl
    have hne : es ≠ [] := fun hnil => hsearch _ (hnil ▸ hes)
    exact Or.inr ⟨t, c, l', es, ht, hc, hl', hes, hne, hpasses, htrace⟩

/-- A test that passes on the fixture that a before leaves. -/
theorem completes_iff_behind_before :
    let c := ((TestClass.empty "Cart" 0).register .before "fills" (.sequential fun n => (n + 1, .passes))).register
      .concurrent "adds" (.sequential fun n => (n, if n = 1 then .passes else .panics ⟨.text "empty", .body⟩))
    let x : Explorer Nat := ⟨.ofList [c], {}⟩
    let tokens := [entryPoint, "--testclass=Cart", "--test=method=adds", "--beforemethod=fills"]
    Event.completed ∈ (Event.ofBytes ((serveUnder x x.bounds.search tokens {}).run .start).1.1.written).1 ∧
      ∃ n, 0 < n ∧ ((x.answerUnder x.bounds.search ⟨tokens⟩).run .start).2.trace =
        (List.replicate n [.built "Cart", .ran "fills", .ran "adds"]).flatten := by
  intro c x tokens
  let a : Arguments := { testClass := some "Cart", test := some ⟨"adds", none⟩, befores := ["fills"] }
  let l : Lifecycle Nat := { fixture := c.fixture, befores := [c.methods[0]], test := c.methods[1] }
  have hb : x.bounds.Startable := ⟨by decide, by decide, by decide⟩
  have ha : Arguments.read tokens = .ok a := by cbv
  have hl : x.resolve Session.start.catalogue a = .ok (some l) := rfl
  have hthreadless : l.Threadless := by
    refine ⟨fun m hm => ?_, ?_, fun m hm => absurd hm List.not_mem_nil⟩
    · obtain rfl := List.mem_singleton.1 hm
      exact Body.threadless_sequential fun n p hp => by cases hp
    · refine Body.threadless_sequential fun n p hp => ?_
      dsimp only at hp
      split at hp <;> cases hp
      rfl
  obtain ⟨o, n', names, k, -, hgo⟩ := Lifecycle.exists_goes_runOnce hthreadless 0
  have ho : o = .ok () := by
    have hrun := congrArg Prod.fst (hgo .start (fun h => by cases h) rfl)
    exact (Except.ok.inj hrun).symm
  obtain ⟨log, hanswer⟩ := x.run_answer (p := ⟨tokens⟩) ha (s := .start) hl
  rw [run_explore_some hb hthreadless hgo (s := Session.start.logged log) rfl, ho] at hanswer
  have hcompleted : ((x.answerUnder x.bounds.search ⟨tokens⟩).run .start).1.observations = [.completed] := by
    rw [← answer, hanswer]
    rfl
  obtain ⟨hserved, -, hran⟩ := x.completes_iff x.bounds.search_ne_runs_nil tokens .start
  refine ⟨hserved.2 hcompleted, ?_⟩
  obtain ⟨a', ha', h⟩ := hran hcompleted
  cases ha.symm.trans ha'
  rcases h with ⟨hnone, -⟩ | ⟨t, c', l', es, ht, hc, hl', -, hne, -, htrace⟩
  · cases hnone
  · cases ht
    cases hc
    cases hl'
    exact ⟨es.length, List.length_pos_iff.2 hne, htrace⟩

/-- Tokens that name a before and no test, tokens without an entry point, and no tokens at all: each of these lists is
another one than a warm-up, is served with the event of a completed test, and nothing has run. -/
theorem completes_without_test :
    let x : Explorer Unit := ⟨{}, {}⟩
    ∀ tokens ∈ [[entryPoint, "--beforemethod=setup"], ["--test=method=adds"], []],
      tokens ≠ Payload.warmUp.tokens ∧ ((x.answer ⟨tokens⟩).run .start).1.observations = [.completed] ∧
        ((x.answer ⟨tokens⟩).run .start).2.trace = Session.start.trace ∧
        Event.completed ∈ (Event.ofBytes ((serve x tokens {}).run .start).1.1.written).1 := by
  intro x tokens htokens
  have hb : x.bounds.Startable := ⟨by decide, by decide, by decide⟩
  have hread : ∃ a, Arguments.read tokens = .ok a ∧ a.checkedTest? = none := by
    simp only [List.mem_cons, List.not_mem_nil, or_false] at htokens
    rcases htokens with rfl | rfl | rfl
    · exact ⟨{ befores := ["setup"] }, by cbv, rfl⟩
    · exact ⟨{}, rfl, rfl⟩
    · exact ⟨{}, rfl, rfl⟩
  obtain ⟨a, ha, hnone⟩ := hread
  obtain ⟨hcompleted, htrace⟩ := x.completes_of_asks_nothing hb ha hnone .start
  refine ⟨?_, hcompleted, htrace, (x.completed_mem_served_iff x.bounds.search tokens .start).2 hcompleted⟩
  rintro rfl
  revert htokens
  decide

end Explorer

end Interleave
