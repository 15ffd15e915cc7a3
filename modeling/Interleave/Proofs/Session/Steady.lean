import Interleave.Proofs.Session.Actions

/-!
# Steady actions

Bodies may run while the explorer is at work and while it is not. Unless the scheduler has panicked, a steady
action goes the same way in both: nothing in a session but the next identity of a failure bears on it, and all that
it changes are the identities, the trace and the choices that are left (`Goes`).

- `Steady`: an action that goes some way from every next identity and runs a part of a plan, in order;
- to raise a failure is steady (`steady_raiseDraft`), and so are the steps of steady actions in a row
  (`Steady.bind`).
-/

namespace Interleave

namespace Session

/-- No scheduler has panicked in an exploration under way: the panic of a body is then one of its test. -/
def Calm (s : Session) : Prop := s.scheduler.exploring = true → s.scheduler.panicked = false

/-- No exploration is under way. -/
def Idle (s : Session) : Prop := s.scheduler.exploring = false

theorem Idle.calm {s : Session} (h : s.Idle) : s.Calm := fun he => by
  rw [h] at he
  cases he

/-- The session after bodies ran: the next identity, what they left in the trace, and how many choices they took. -/
def passed (s : Session) (next : Nat) (ts : List Trace) (taken : Nat) : Session :=
  { s with
    nextFailure := next
    trace := s.trace ++ ts
    scheduler := { s.scheduler with choices := s.scheduler.choices.drop taken } }

theorem passed_zero (s : Session) : s.passed s.nextFailure [] 0 = s := by
  rw [passed, List.append_nil]
  rfl

theorem passed_passed (s : Session) (n n' : Nat) (ts ts' : List Trace) (k k' : Nat) :
    (s.passed n ts k).passed n' ts' k' = s.passed n' (ts ++ ts') (k + k') := by
  simp only [passed, List.append_assoc, List.drop_drop]

theorem Idle.passed {s : Session} (h : s.Idle) (n : Nat) (ts : List Trace) (k : Nat) : (s.passed n ts k).Idle := h

theorem Calm.passed {s : Session} (h : s.Calm) (n : Nat) (ts : List Trace) (k : Nat) : (s.passed n ts k).Calm := h

end Session

variable {α β : Type}

/-- In every calm session with the given next identity, the action ends with a value, without a panic, and leaves
the next identity, the part of the trace and the choices as told. -/
def Goes (x : Action α) (first : Nat) (a : α) (next : Nat) (ts : List Trace) (taken : Nat) : Prop :=
  ∀ s : Session, s.Calm → s.nextFailure = first → (catching x).run s = (.ok a, s.passed next ts taken)

theorem goes_pure (a : α) (n : Nat) : Goes (pure a) n a n [] 0 := by
  rintro s - rfl
  rw [Session.passed_zero]
  rfl

/-- Two actions in a row go the way of the first and then the way of the second. -/
theorem Goes.bind {x : Action α} {f : α → Action β} {a : α} {b : β} {n n' n'' k k' : Nat} {ts ts' : List Trace}
    (hx : Goes x n a n' ts k) (hf : Goes (f a) n' b n'' ts' k') : Goes (x >>= f) n b n'' (ts ++ ts') (k + k') := by
  intro s hs hn
  rw [catching_bind_of_ok (hx s hs hn), hf _ (hs.passed _ _ _) rfl, Session.passed_passed]

/-- An action that goes some way from every next identity, and runs a part of a plan, in the order of the plan. -/
def Steady (x : Action α) (plan : List String) : Prop :=
  ∀ n, ∃ (a : α) (n' : Nat) (names : List String) (k : Nat),
    names.Sublist plan ∧ Goes x n a n' (names.map .ran) k

theorem steady_pure (a : α) : Steady (pure a) [] := fun n => ⟨a, n, [], 0, .refl _, goes_pure a n⟩

/-- Steady actions in a row are steady. -/
theorem Steady.bind {x : Action α} {f : α → Action β} {p q : List String} (hx : Steady x p)
    (hf : ∀ a, Steady (f a) q) : Steady (x >>= f) (p ++ q) := by
  intro n
  obtain ⟨a, n', names, k, hsub, ha⟩ := hx n
  obtain ⟨b, n'', names', k', hsub', hb⟩ := hf a n'
  refine ⟨b, n'', names ++ names', k + k', hsub.append hsub', ?_⟩
  rw [List.map_append]
  exact ha.bind hb

/-- A step after a steady action does not change the plan if it runs nothing. -/
theorem Steady.bind_pure {x : Action α} {f : α → Action β} {p : List String} (hx : Steady x p)
    (hf : ∀ a, Steady (f a) []) : Steady (x >>= f) p := by
  rw [← List.append_nil p]
  exact hx.bind hf

theorem Steady.map {x : Action α} {p : List String} (f : α → β) (hx : Steady x p) : Steady (f <$> x) p := by
  rw [map_eq_pure_bind]
  exact hx.bind_pure fun a => steady_pure (f a)

theorem Steady.mono {x : Action α} {p q : List String} (hx : Steady x p) (h : p.Sublist q) : Steady x q := by
  intro n
  obtain ⟨a, n', names, k, hsub, ha⟩ := hx n
  exact ⟨a, n', names, k, hsub.trans h, ha⟩

/-- Raising a failure is steady: the next identity decides which failure it is. -/
theorem steady_raiseDraft (d : Draft) : Steady (liftM (Session.raiseDraft d)) [] := by
  intro n
  refine ⟨⟨n, d.typeName, d.fault⟩, n + 1, [], 0, .refl _, ?_⟩
  rintro s - rfl
  rw [catching_lift, Session.run_raiseDraft, List.map_nil, Session.passed, List.append_nil]
  rfl

end Interleave
