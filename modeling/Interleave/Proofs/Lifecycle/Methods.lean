import Interleave.Proofs.Lifecycle.Steps
import Interleave.Proofs.Session.Twins

/-!
# Runs of methods

A method finds a fixture and the choices that are left, and leaves them to the next one.

- `Standing`: what a method finds. What it leaves and what it fails with follow from there (`TestMethod.leaves`,
  `TestMethod.failure?`).
- A method that no panic leaves ends with its failure, in any calm session (`TestMethod.exists_run_invoke_of_calm`).
  Where no exploration is under way, no panic leaves a method (`TestMethod.exists_run_invoke_of_panics`).
-/

namespace Interleave

variable {σ : Type}

/-! ## Methods -/

/-- The outcome with the given failure. -/
def Outcome.ofFailure? : Option Failure → Outcome
  | none => .ok ()
  | some f => .error f

theorem Outcome.orElse_ofFailure? (f g : Option Failure) :
    (ofFailure? f).orElse (ofFailure? g) = ofFailure? (f.or g) := by
  cases f <;> rfl

theorem Outcome.ofFailure?_eq_ok_iff {f : Option Failure} : ofFailure? f = .ok () ↔ f = none := by
  cases f <;> simp [ofFailure?]

/-- A panic in a method that returns is one of its body. -/
theorem Passage.origin_of_returns {p : Passage σ} (hp : p.returns) {q : Panic} (hends : p.ending = .panics q) :
    q.origin = .body := by
  rw [returns, hends] at hp
  obtain ⟨payload, origin⟩ := q
  cases origin with
  | body => rfl
  | scheduler => cases hp
  | thread => cases hp

namespace Ending

/-- The failure of a body: the very one that it returns, or one that has the given identity, if the body makes it or
panics. -/
def failure? (id : Nat) : Ending → Option Failure
  | passes => none
  | raises f => some f
  | fails d => some ⟨id, d.typeName, d.fault⟩
  | panics p => some ⟨id, "weft::failure::Panicked", .panicked p.payload.message⟩

/-- How many identities a body uses up. -/
def made : Ending → Nat
  | passes | raises _ => 0
  | fails _ | panics _ => 1

end Ending

/-- What a method finds: the fixture, the choices that are left, and the identity of the next failure. -/
structure Standing (σ : Type) where
  fixture : σ
  choices : List Nat
  next : Nat

/-- The passage of a method that is next. -/
def TestMethod.passage (m : TestMethod σ) (way : List Nat) (fixture : σ) : Passage σ :=
  m.body.run (way.headD 0) fixture

namespace TestMethod

/-- What the method fails with, if it does. -/
def failure? (m : TestMethod σ) (a : Standing σ) : Option Failure :=
  (m.passage a.choices a.fixture).ending.failure? a.next

theorem failure?_eq_none_iff {m : TestMethod σ} {a : Standing σ} :
    m.failure? a = none ↔ (m.passage a.choices a.fixture).passes := by
  rw [failure?, Passage.passes]
  cases (m.passage a.choices a.fixture).ending <;> simp [Ending.failure?]

/-- What the method leaves. -/
def leaves (m : TestMethod σ) (a : Standing σ) : Standing σ where
  fixture := (m.passage a.choices a.fixture).fixture
  choices := a.choices.tail
  next := a.next + (m.passage a.choices a.fixture).ending.made

end TestMethod

/-! ## Runs -/

namespace Session

/-- What a method finds that runs in the session. -/
def standing (s : Session) (fixture : σ) : Standing σ := ⟨fixture, s.scheduler.choices, s.nextFailure⟩

/-- The session behind methods that have run, with what they have left. -/
def behind (s : Session) (ms : List (TestMethod σ)) (a : Standing σ) (leaked : Bool) : Session :=
  { s with
    nextFailure := a.next
    trace := s.trace ++ ms.map fun m => .ran m.name
    scheduler := { s.scheduler with choices := a.choices, leaked } }

section Behind

variable (s : Session) (ms ns : List (TestMethod σ)) (a b : Standing σ) (leaked leaked' : Bool)

theorem behind_nil (fixture : σ) :
    s.behind ([] : List (TestMethod σ)) (s.standing fixture) s.scheduler.leaked = s := by
  rw [behind, List.map_nil, List.append_nil]
  rfl

@[simp] theorem behind_behind : (s.behind ms a leaked).behind ns b leaked' = s.behind (ms ++ ns) b leaked' := by
  simp only [behind, List.map_append, List.append_assoc]

@[simp] theorem standing_behind : (s.behind ms a leaked).standing a.fixture = a := rfl

variable {s} in
theorem Calm.behind (hs : s.Calm) : (s.behind ms a leaked).Calm := hs

end Behind

end Session

section Runs

variable {s : Session} (hs : s.Calm)
include hs

/-- A body ends with its failure, unless a panic leaves it. -/
theorem Ending.run_outcome_of_calm {e : Ending}
    (he : s.scheduler.exploring = true → ∀ p, e = .panics p → p.origin = .body) :
    (catching e.outcome).run s =
      (.ok (.ofFailure? (e.failure? s.nextFailure)), { s with nextFailure := s.nextFailure + e.made }) := by
  cases e with
  | passes => rfl
  | raises f => rfl
  | fails d => rfl
  | panics p =>
    rw [outcome, map_eq_pure_bind]
    refine catching_bind_of_ok (t := { s with nextFailure := s.nextFailure + 1 }) ?_
    cases hexploring : s.scheduler.exploring with
    | false => exact run_catchPanic_of_idle p hexploring
    | true =>
      have horigin := he hexploring p rfl
      rw [run_catchPanic p (hs hexploring), if_neg (by simp [horigin]), if_neg (by simp [horigin])]
      rfl

/-- A method that no panic leaves adds its name to the trace, and ends with its failure. -/
theorem TestMethod.exists_run_invoke_of_calm {m : TestMethod σ} {fixture : σ}
    (hm : s.scheduler.exploring = true → (m.passage s.scheduler.choices fixture).returns) :
    ∃ leaked, (catching (m.invoke fixture)).run s =
      (.ok ((m.leaves (s.standing fixture)).fixture, .ofFailure? (m.failure? (s.standing fixture))),
        s.behind [m] (m.leaves (s.standing fixture)) leaked) := by
  obtain ⟨leaked, hrun⟩ := m.exists_run_invoke fixture s
  have hran : (s.ran m.name leaked).Calm := hs
  refine ⟨leaked, ?_⟩
  rw [hrun, map_eq_pure_bind]
  exact catching_bind_of_ok (Ending.run_outcome_of_calm hran fun he p hp => Passage.origin_of_returns (hm he) hp)

end Runs

/-- Where no exploration is under way, a method that panics fails with the failure that stands for the panic. -/
theorem TestMethod.exists_run_invoke_of_panics {m : TestMethod σ} {fixture : σ} {p : Panic} {s : Session}
    (h : (m.body.run (s.scheduler.choices.headD 0) fixture).ending = .panics p) (hs : s.Idle) :
    ∃ fixture' id t, (catching (m.invoke fixture)).run s =
      (.ok (fixture', .error ⟨id, "weft::failure::Panicked", .panicked p.payload.message⟩), t) := by
  obtain ⟨leaked, hrun⟩ := exists_run_invoke_of_calm hs.calm (m := m) fun he => absurd (he.symm.trans hs) (by decide)
  have hends : (m.passage s.scheduler.choices fixture).ending = .panics p := h
  have hfails : m.failure? (s.standing fixture) =
      some ⟨s.nextFailure, "weft::failure::Panicked", .panicked p.payload.message⟩ := by
    rw [failure?, Session.standing, hends]
    rfl
  rw [hfails] at hrun
  exact ⟨_, _, _, hrun⟩

end Interleave
