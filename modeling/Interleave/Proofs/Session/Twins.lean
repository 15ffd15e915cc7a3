import Interleave.Lifecycle
import Interleave.Proofs.Session.Actions

/-!
# Actions in two sessions

Tests run in sessions that differ: in a child process, behind other tests, in another execution of an exploration.
Only what the scheduler is doing bears on how they end, up to the identities of the failures that they raise.

- `Failure.Alike`: failures that cannot be told apart but by identity.
- `Failure.Counterpart`: what a failure of one run is in another run: the same one, if it was there before them, or a
  failure that was raised there. Counterparts are alike (`Failure.Counterpart.alike`).
- `Session.Onward`: what no test takes back.
- `Twin`: actions that end with counterparts in any two sessions with the same scheduler, that note a panic of the
  scheduler exactly if it leaves them, and that no panic leaves unless an exploration is under way. Steps of twins in a
  row are twins (`Twin.bind`).
-/

namespace Interleave

/-! ## Alike failures -/

theorem Fault.text_unexpected (expected : String) (f : Failure) : (Fault.unexpected expected f).text =
    "unexpected failure, expected " ++ expected ++ " but was " ++ f.text := by
  unfold Fault.text
  rfl

/-- Faults of one text, with the same types of faults behind them. -/
structure Fault.Alike (a b : Fault) : Prop where
  text : a.text = b.text
  types : a.chain.map Fault.typeName = b.chain.map Fault.typeName

theorem Fault.Alike.refl (a : Fault) : a.Alike a := ⟨rfl, rfl⟩

/-- Failures that cannot be told apart but by identity: they report the same type name, message and text, and meet the
same expectations. -/
structure Failure.Alike (f g : Failure) : Prop where
  typeName : f.typeName = g.typeName
  fault : f.fault.Alike g.fault

namespace Failure

theorem Alike.refl (f : Failure) : f.Alike f := ⟨rfl, .refl _⟩

variable {f g : Failure} (h : f.Alike g)
include h

theorem Alike.message : f.message = g.message := h.fault.text

theorem Alike.text : f.text = g.text := by
  rw [text_eq, text_eq, h.typeName, h.message]

theorem Alike.is (t : String) : f.is t = g.is t := by
  have hchain : ∀ f : Failure, f.is t = true ↔ t ∈ f.fault.chain.map Fault.typeName := by
    intro f
    rw [is_iff, List.mem_map]
  rw [Bool.eq_iff_iff, hchain, hchain, h.fault.types]

theorem Alike.meets (e : Expectation) : e.meets f = e.meets g := h.is e.typeName

/-- A mismatch shows all of the failure that came instead. -/
theorem Alike.unexpected (expected : String) : (Fault.unexpected expected f).Alike (.unexpected expected g) where
  text := by rw [Fault.text_unexpected, Fault.text_unexpected, h.text]
  types := by
    rw [Fault.chain_eq, Fault.chain_eq (.unexpected expected g)]
    simp only [Fault.source, Option.map_some, Option.getD_some, List.map_cons, h.fault.types]
    rfl

end Failure

/-! ## Counterparts -/

/-- Failures of two runs that began with the given next identities: one and the same failure, or one draft that was
raised in both runs, or mismatches with such failures, that were raised in both runs. -/
inductive Failure.Counterpart (n m : Nat) : Failure → Failure → Prop
  | same (f : Failure) : Counterpart n m f f
  | raised {i j : Nat} (hi : n ≤ i) (hj : m ≤ j) (d : Draft) :
      Counterpart n m ⟨i, d.typeName, d.fault⟩ ⟨j, d.typeName, d.fault⟩
  | mismatch {i j : Nat} (hi : n ≤ i) (hj : m ≤ j) (expected : String) {f g : Failure} (h : Counterpart n m f g) :
      Counterpart n m ⟨i, "weft::failure::UnexpectedFailure", .unexpected expected f⟩
        ⟨j, "weft::failure::UnexpectedFailure", .unexpected expected g⟩

/-- Outcomes of two runs: both pass, or they fail with counterparts. -/
inductive Outcome.Counterpart (n m : Nat) : Outcome → Outcome → Prop
  | ok : Counterpart n m (.ok ()) (.ok ())
  | error {f g : Failure} (h : f.Counterpart n m g) : Counterpart n m (.error f) (.error g)

section Counterpart

variable {n m : Nat}

/-- Counterparts cannot be told apart but by identity. -/
theorem Failure.Counterpart.alike {f g : Failure} (h : f.Counterpart n m g) : f.Alike g := by
  induction h with
  | same f => exact .refl f
  | raised hi hj d => exact ⟨rfl, .refl _⟩
  | mismatch hi hj expected h ih => exact ⟨rfl, ih.unexpected expected⟩

theorem Outcome.Counterpart.refl (o : Outcome) : o.Counterpart n m o := by
  rcases o with f | _
  · exact .error (.same f)
  · exact .ok

theorem Outcome.Counterpart.orElse {o o' p p' : Outcome} (h : o.Counterpart n m o') (h' : p.Counterpart n m p') :
    (o.orElse p).Counterpart n m (o'.orElse p') := by
  cases h with
  | ok => exact h'
  | error h => exact .error h

end Counterpart

/-! ## What lasts -/

/-- What a session has of one that came before it, when tests ran in between: the same catalogue, the same backtraces,
all identities that were given away, and all of the trace. -/
structure Session.Onward (s t : Session) : Prop where
  catalogue : t.catalogue = s.catalogue
  backtraces : t.backtraces = s.backtraces
  next : s.nextFailure ≤ t.nextFailure
  trace : s.trace <+: t.trace

namespace Session.Onward

variable {s t u : Session}

theorem refl (s : Session) : s.Onward s := ⟨rfl, rfl, Nat.le_refl _, List.prefix_refl _⟩

/-- Whatever the scheduler does, it takes nothing back. -/
theorem withScheduler (s : Session) (scheduler : Scheduler) : s.Onward { s with scheduler } :=
  ⟨rfl, rfl, Nat.le_refl _, List.prefix_refl _⟩

theorem logged (s : Session) (rs : List Record) : s.Onward (s.logged rs) :=
  ⟨rfl, rfl, Nat.le_refl _, List.prefix_refl _⟩

theorem trans (h : s.Onward t) (h' : t.Onward u) : s.Onward u where
  catalogue := h'.catalogue.trans h.catalogue
  backtraces := h'.backtraces.trans h.backtraces
  next := Nat.le_trans h.next h'.next
  trace := h.trace.trans h'.trace

end Session.Onward

/-- An exploration is under way in which the scheduler has not panicked. -/
structure Session.Undisturbed (s : Session) : Prop where
  exploring : s.scheduler.exploring = true
  panicked : s.scheduler.panicked = false

/-! ## Twins -/

variable {α β γ δ : Type} {n m : Nat} {R : α → β → Prop} {S : γ → δ → Prop}

/-- Two ends of actions, each with the session in which it began: their values are related, or one panic left both. A
panic leaves an exploration only; one of the scheduler is noted, and no other one. A scheduler at rest stays so. -/
inductive TwinEnds (R : α → β → Prop) (s s' : Session) :
    Except Panic α × Session → Except Panic β × Session → Prop
  | ok {a : α} {b : β} {t t' : Session} (h : R a b) (hscheduler : t.scheduler = t'.scheduler)
      (hs : s.Onward t) (hs' : s'.Onward t') (hexploring : t.scheduler.exploring = s.scheduler.exploring)
      (hnoted : t.scheduler.panicked = false) (hrest : s.scheduler = {} → t.scheduler = {}) :
      TwinEnds R s s' (.ok a, t) (.ok b, t')
  | error {p : Panic} {t t' : Session} (hscheduler : t.scheduler = t'.scheduler)
      (hs : s.Onward t) (hs' : s'.Onward t') (hexploring : s.scheduler.exploring = true)
      (hnoted : t.scheduler.panicked = true ↔ p.origin = .scheduler) : TwinEnds R s s' (.error p, t) (.error p, t')

/-- Actions that end alike in any two sessions in which the scheduler is doing the same and has not panicked, and in
which the given identities have been given away. -/
def Twin (n m : Nat) (R : α → β → Prop) (x : Action α) (y : Action β) : Prop :=
  ∀ s s' : Session, n ≤ s.nextFailure → m ≤ s'.nextFailure → s.scheduler = s'.scheduler →
    s.scheduler.panicked = false → TwinEnds R s s' ((catching x).run s) ((catching y).run s')

theorem twin_pure {a : α} {b : β} (h : R a b) : Twin n m R (pure a) (pure b) :=
  fun s s' _ _ hss' hs => .ok h hss' (.refl s) (.refl s') rfl hs id

/-- Twins in a row are twins. -/
theorem Twin.bind {x : Action α} {y : Action β} {f : α → Action γ} {g : β → Action δ} (hx : Twin n m R x y)
    (hf : ∀ a b, R a b → Twin n m S (f a) (g b)) : Twin n m S (x >>= f) (y >>= g) := by
  intro s s' hn hm hss' hs
  have h := hx s s' hn hm hss' hs
  rw [catching_bind, catching_bind]
  generalize (catching x).run s = a at h ⊢
  generalize (catching y).run s' = b at h ⊢
  cases h with
  | @ok a b t t' h hscheduler ht ht' hexploring hnoted hrest =>
    have h' := hf a b h t t' (Nat.le_trans hn ht.next) (Nat.le_trans hm ht'.next) hscheduler hnoted
    dsimp only
    generalize (catching (f a)).run t = c at h' ⊢
    generalize (catching (g b)).run t' = d at h' ⊢
    cases h' with
    | ok h' hscheduler' hu hu' hexploring' hnoted' hrest' =>
      exact .ok h' hscheduler' (ht.trans hu) (ht'.trans hu') (hexploring'.trans hexploring) hnoted'
        fun hs => hrest' (hrest hs)
    | error hscheduler' hu hu' hexploring' hnoted' =>
      exact .error hscheduler' (ht.trans hu) (ht'.trans hu') (hexploring.symm.trans hexploring') hnoted'
  | error hscheduler ht ht' hexploring hnoted => exact .error hscheduler ht ht' hexploring hnoted

theorem Twin.map {x : Action α} {y : Action β} (hx : Twin n m R x y) {f : α → γ} {g : β → δ}
    (hf : ∀ a b, R a b → S (f a) (g b)) : Twin n m S (f <$> x) (g <$> y) := by
  rw [map_eq_pure_bind, map_eq_pure_bind]
  exact hx.bind fun a b h => twin_pure (hf a b h)

/-- A quiet step that lets the scheduler alone and takes nothing back. -/
def Unscheduled (x : Quiet α) : Prop :=
  ∀ s : Session, s.Onward (x.run s).2 ∧ (x.run s).2.scheduler = s.scheduler

/-- Steps that let the scheduler alone are twins if their values are related. -/
theorem twin_lift {x : Quiet α} {y : Quiet β} (hx : Unscheduled x) (hy : Unscheduled y)
    (h : ∀ s s' : Session, n ≤ s.nextFailure → m ≤ s'.nextFailure → R (x.run s).1 (y.run s').1) :
    Twin n m R (liftM x) (liftM y) := by
  intro s s' hn hm hss' hs
  obtain ⟨hs₁, hscheduler⟩ := hx s
  obtain ⟨hs₁', hscheduler'⟩ := hy s'
  rw [catching_lift, catching_lift]
  exact .ok (h s s' hn hm) (by rw [hscheduler, hscheduler', hss']) hs₁ hs₁' (by rw [hscheduler])
    (by rw [hscheduler, hs]) fun hrest => by rw [hscheduler, hrest]

/-- A step that changes what the scheduler is doing is a twin of itself. -/
theorem twin_modify {g : Scheduler → Scheduler} (hexploring : ∀ s, (g s).exploring = s.exploring)
    (hnoted : ∀ s, (g s).panicked = s.panicked) (hrest : g {} = {}) :
    Twin n m (fun _ _ => True) (modify fun s => { s with scheduler := g s.scheduler } : Action Unit)
      (modify fun s => { s with scheduler := g s.scheduler }) := by
  intro s s' _ _ hss' hs
  let t : Session := { s with scheduler := g s.scheduler }
  let t' : Session := { s' with scheduler := g s'.scheduler }
  have hscheduler : t.scheduler = t'.scheduler := congrArg g hss'
  refine .ok trivial hscheduler (.withScheduler s _) (.withScheduler s' _) (hexploring _) ((hnoted _).trans hs) ?_
  intro h
  show g s.scheduler = _
  rw [h, hrest]

/-! ## Steps of a test -/

theorem unscheduled_mark (trace : Trace) : Unscheduled (Session.mark trace) :=
  fun _ => ⟨⟨rfl, rfl, Nat.le_refl _, List.prefix_append _ _⟩, rfl⟩

theorem unscheduled_raiseDraft (d : Draft) : Unscheduled (Session.raiseDraft d) :=
  fun _ => ⟨⟨rfl, rfl, Nat.le_succ _, List.prefix_refl _⟩, rfl⟩

theorem twin_mark (trace : Trace) :
    Twin n m (fun _ _ => True) (liftM (Session.mark trace)) (liftM (Session.mark trace)) :=
  twin_lift (unscheduled_mark trace) (unscheduled_mark trace) fun _ _ _ _ => trivial

/-- The next choice is the same in two sessions. -/
theorem twin_nextChoice : Twin n m Eq (liftM Session.nextChoice) (liftM Session.nextChoice) := by
  intro s s' _ _ hss' hs
  rw [catching_lift, catching_lift]
  refine .ok ?_ ?_ (.withScheduler s _) (.withScheduler s' _) rfl hs ?_
  · show s.scheduler.choices.headD 0 = s'.scheduler.choices.headD 0
    rw [hss']
  · show ({ s.scheduler with choices := s.scheduler.choices.tail } : Scheduler) =
      { s'.scheduler with choices := s'.scheduler.choices.tail }
    rw [hss']
  · intro hrest
    show ({ s.scheduler with choices := s.scheduler.choices.tail } : Scheduler) = {}
    rw [hrest]
    rfl

/-- A draft is raised as counterparts. -/
theorem twin_raiseDraft (d : Draft) :
    Twin n m (Failure.Counterpart n m) (liftM (Session.raiseDraft d)) (liftM (Session.raiseDraft d)) :=
  twin_lift (unscheduled_raiseDraft d) (unscheduled_raiseDraft d) fun _ _ hn hm => .raised hn hm d

/-- A mismatch with counterparts is raised as counterparts. -/
theorem twin_raise_unexpected (expected : String) {f g : Failure} (h : f.Counterpart n m g) :
    Twin n m (Failure.Counterpart n m) (liftM (Session.raise (.unexpected expected f)))
      (liftM (Session.raise (.unexpected expected g))) :=
  twin_lift (unscheduled_raiseDraft _) (unscheduled_raiseDraft _) fun _ _ hn hm => .mismatch hn hm expected h

/-- In an exploration, a panic of another thread goes on, and so does one of the scheduler, which is noted. Any other
one becomes a failure. -/
theorem run_catchPanic (p : Panic) {s : Session} (hs : s.scheduler.panicked = false) :
    (catching (catchPanic p)).run s =
      if s.scheduler.exploring = true ∧ p.origin = .thread then (.error p, s)
      else if s.scheduler.exploring = true ∧ p.origin = .scheduler then
        (.error p, { s with scheduler := { s.scheduler with panicked := true } })
      else (catching (liftM (Session.raisePanic p.payload))).run s := by
  obtain ⟨payload, origin⟩ := p
  obtain ⟨next, trace, log, catalogue, ⟨exploring, panicked, choices, leaked⟩, deliveries, primed, backtraces⟩ := s
  obtain rfl : panicked = false := hs
  cases origin <;> cases exploring <;> rfl

/-- A panic is a failure in both sessions or leaves both. -/
theorem twin_catchPanic (p : Panic) : Twin n m (Failure.Counterpart n m) (catchPanic p) (catchPanic p) := by
  intro s s' hn hm hss' hs
  rw [run_catchPanic p hs, run_catchPanic p (hss' ▸ hs), ← hss']
  by_cases hthread : s.scheduler.exploring = true ∧ p.origin = .thread
  · rw [if_pos hthread, if_pos hthread]
    exact .error hss' (.refl s) (.refl s') hthread.1 (by simp [hs, hthread.2])
  · rw [if_neg hthread, if_neg hthread]
    by_cases hnoted : s.scheduler.exploring = true ∧ p.origin = .scheduler
    · rw [if_pos hnoted, if_pos hnoted]
      exact .error rfl (.withScheduler s _) (.withScheduler s' _) hnoted.1 (by simp [hnoted.2])
    · rw [if_neg hnoted, if_neg hnoted]
      exact twin_raiseDraft (.ofFault (.panicked p.payload.message)) s s' hn hm hss' hs

end Interleave
