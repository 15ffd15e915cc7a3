import Interleave.Session

/-!
# Steps of actions

- An action in two steps goes on with the second one unless the first one panics (`catching_bind`); a quiet step
  never panics (`catching_lift`).
- Logging changes the log and nothing else (`run_event`, `run_span`); raising a failure gives the next identity
  away and changes nothing else (`run_raiseDraft`).
-/

namespace Interleave

section Steps

variable {α β : Type}

/-- A quiet step does not panic. -/
theorem catching_lift (q : Quiet α) (s : Session) :
    (catching (liftM q : Action α)).run s = (.ok (q.run s).1, (q.run s).2) := rfl

/-- The second step of an action runs unless the first one panics. -/
theorem catching_bind (x : Action α) (f : α → Action β) (s : Session) :
    (catching (x >>= f)).run s =
      match (catching x).run s with
      | (.ok a, t) => (catching (f a)).run t
      | (.error p, t) => (.error p, t) := by
  rcases h : (catching x).run s with ⟨r, t⟩
  have hx : x.run.run s = (r, t) := h
  rw [catching, ExceptT.run_bind, StateT.run_bind, hx]
  cases r <;> rfl

theorem catching_bind_of_ok {x : Action α} {f : α → Action β} {s t : Session} {a : α}
    (h : (catching x).run s = (.ok a, t)) : (catching (x >>= f)).run s = (catching (f a)).run t := by
  rw [catching_bind, h]

theorem catching_bind_of_error {x : Action α} {f : α → Action β} {s t : Session} {p : Panic}
    (h : (catching x).run s = (.error p, t)) : (catching (x >>= f)).run s = (.error p, t) := by
  rw [catching_bind, h]

/-- An action in two steps ends with a value exactly if both steps do, one behind the other. -/
theorem catching_bind_eq_ok_iff {x : Action α} {f : α → Action β} {s u : Session} {b : β} :
    (catching (x >>= f)).run s = (.ok b, u) ↔
      ∃ a t, (catching x).run s = (.ok a, t) ∧ (catching (f a)).run t = (.ok b, u) := by
  constructor
  · intro h
    rw [catching_bind] at h
    rcases hx : (catching x).run s with ⟨p | a, t⟩
    · rw [hx] at h
      cases h
    · rw [hx] at h
      exact ⟨a, t, rfl, h⟩
  · rintro ⟨a, t, hx, hf⟩
    rw [catching_bind, hx]
    exact hf

theorem catching_bind_lift (q : Quiet α) (f : α → Action β) (s : Session) :
    (catching (liftM q >>= f)).run s = (catching (f (q.run s).1)).run (q.run s).2 := by
  rw [catching_bind, catching_lift]

theorem run_bind_get (f : Session → Quiet β) (s : Session) : (get >>= f).run s = (f s).run s := rfl

theorem run_bind_modify (g : Session → Session) (f : Unit → Quiet β) (s : Session) :
    (modify g >>= f).run s = (f ()).run (g s) := rfl

theorem run_bind (q : Quiet α) (f : α → Quiet β) (s : Session) :
    (q >>= f).run s = (f (q.run s).1).run (q.run s).2 := rfl

end Steps

namespace Session

/-- The session in which a process starts. -/
def start : Session := { catalogue := default }

/-! ## Logs -/

/-- The session with more records in its log. -/
def logged (s : Session) (rs : List Record) : Session := { s with log := s.log ++ rs }

section Logs

variable (s : Session) (rs : List Record)

@[simp] theorem logged_nil : s.logged [] = s := by rw [logged, List.append_nil]

@[simp] theorem logged_logged (rs' : List Record) : (s.logged rs).logged rs' = s.logged (rs ++ rs') := by
  simp only [logged, List.append_assoc]

@[simp] theorem catalogue_logged : (s.logged rs).catalogue = s.catalogue := rfl

theorem run_event (level : Level) (name : String) (fields : List (String × String)) :
    (event level name fields).run s = ((), s.logged [{ level, name, fields }]) := rfl

theorem run_span (level : Level) (name : String) (fields : List (String × String)) :
    (span level name fields).run s = ((), s.logged [{ span := true, level, name, fields }]) := rfl

/-- Logging records one by one logs all of them. -/
theorem run_forM_record : (rs.forM record).run s = ((), s.logged rs) := by
  induction rs generalizing s with
  | nil => rw [logged_nil]; rfl
  | cons r rs ih =>
    show (rs.forM record).run (s.logged [r]) = _
    rw [ih, logged_logged]
    rfl

end Logs

/-! ## Failures -/

/-- A failure that is raised gets the next identity. -/
theorem run_raiseDraft (d : Draft) (s : Session) :
    (raiseDraft d).run s = (⟨s.nextFailure, d.typeName, d.fault⟩, { s with nextFailure := s.nextFailure + 1 }) :=
  rfl

end Session

end Interleave
