import Mathlib.Data.List.Forall2
import Mathlib.Data.Option.Basic
import Interleave.Engine.Scripted
import Interleave.Invocation
import Interleave.Proofs.Verdict.Collector

/-!
# Scripted engines in two sessions

Sessions in which the same payloads have been sent, but different numbers of failures have been raised, go on abreast:
whatever is raised in one of them is raised in the other one, with an identity that is as much further on.

- `Failure.Moved`, `Observation.Moved`, `Answer.Moved`, `Collector.Moved`: the same but for identities that have moved.
- `Session.Abreast`: where two such sessions stand, and what has been sent.
- `Along`: steps that lead sessions which are abreast to others which are; steps of that kind in a row are of that kind
  (`Along.bind`).
- Scripted engines that differ in how they take a warm-up answer all other payloads alike (`ScriptedEngine.along_run`),
  and so does what is concluded from the answers (`Collector.Moved.along_conclude`).
-/

namespace Interleave

open Session

/-! ## Identities that have moved -/

/-- Failures of two runs in which the identities from `a` and from `b` on are given away: one that both runs know, or
one that was raised in both of them, the same number of identities further on. -/
inductive Failure.Moved (a b : Nat) : Failure → Failure → Prop
  | same (f : Failure) : Moved a b f f
  | raised (k : Nat) (d : Draft) : Moved a b ⟨a + k, d.typeName, d.fault⟩ ⟨b + k, d.typeName, d.fault⟩

inductive Observation.Moved (a b : Nat) : Observation → Observation → Prop
  | same (o : Observation) : Moved a b o o
  | thrown {f g : Failure} (h : f.Moved a b g) : Moved a b (.thrown f) (.thrown g)

/-- Answers with the same ending, and with observations that differ in identities. -/
structure Answer.Moved (a b : Nat) (x y : Answer) : Prop where
  observations : List.Forall₂ (Observation.Moved a b) x.observations y.observations
  ending : x.ending = y.ending

/-- Collectors that have observed the same, but for identities. -/
structure Collector.Moved (a b : Nat) (c c' : Collector) : Prop where
  observations : c.observations = c'.observations
  exception : Option.Rel (Failure.Moved a b) c.exception c'.exception
  violation : c.violation = c'.violation

/-- Two ways for an invocation to end: the same one, or a failed test, with failures that differ in identity. -/
inductive Invocation.Moved (a b : Nat) : Except Panic Invoked → Except Panic Invoked → Prop
  | same (r : Except Panic Invoked) : Moved a b r r
  | testFailed {f g : Failure} (h : f.Moved a b g) :
      Moved a b (.ok (.error (.testFailed f))) (.ok (.error (.testFailed g)))

section Moved

variable {a b : Nat}

theorem Observation.Moved.failure? {o o' : Observation} (h : o.Moved a b o') :
    Option.Rel (Failure.Moved a b) o.failure? o'.failure? := by
  cases h with
  | same o =>
    cases o with
    | thrown f => exact .some (.same f)
    | _ => exact .none
  | thrown h => exact .some h

theorem Observation.Moved.violation? {o o' : Observation} (h : o.Moved a b o') : o.violation? = o'.violation? := by
  cases h <;> rfl

theorem Collector.Moved.add {c c' : Collector} (hc : c.Moved a b c') {o o' : Observation} (ho : o.Moved a b o') :
    (c.add o).Moved a b (c'.add o') := by
  obtain ⟨n, exception, violation⟩ := c
  obtain ⟨n', exception', violation'⟩ := c'
  obtain ⟨rfl, hexception, rfl⟩ := hc
  refine ⟨rfl, ?_, congrArg violation.or ho.violation?⟩
  cases hexception with
  | some h => exact .some h
  | none => exact ho.failure?

/-- Collectors of observations that differ in identities differ in identities. -/
theorem Collector.Moved.foldl_add {c c' : Collector} (hc : c.Moved a b c') {os os' : List Observation}
    (hos : List.Forall₂ (Observation.Moved a b) os os') :
    (os.foldl Collector.add c).Moved a b (os'.foldl Collector.add c') := by
  induction hos generalizing c c' with
  | nil => exact hc
  | cons ho _ ih => exact ih (hc.add ho)

end Moved

/-- Where the identities have not moved, invocations end alike. -/
theorem Invocation.Moved.eq {a : Nat} {r r' : Except Panic Invoked} (h : Invocation.Moved a a r r') : r = r' := by
  cases h with
  | same => rfl
  | testFailed h => cases h <;> rfl

/-! ## Sessions abreast -/

/-- Sessions for which the same primers have done their work, in which the same payloads have been sent, and as many
failures raised in one behind the identity `a` as in the other one behind the identity `b`. -/
structure Session.Abreast (ps : List Nat) (a b : Nat) (ds : List Delivery) (s s' : Session) : Prop where
  primed : s.primed = ps
  primed' : s'.primed = ps
  deliveries : s.deliveries = ds
  deliveries' : s'.deliveries = ds
  next : ∃ k, s.nextFailure = a + k ∧ s'.nextFailure = b + k

/-- Steps that lead from sessions abreast to sessions abreast, with related results; what is sent by then is given. -/
def Along (ps : List Nat) (a b : Nat) {α β : Type} (ds es : List Delivery) (R : α → β → Prop) (q : Quiet α)
    (q' : Quiet β) : Prop :=
  ∀ s s', Abreast ps a b ds s s' → R (q.run s).1 (q'.run s').1 ∧ Abreast ps a b es (q.run s).2 (q'.run s').2

section Along

variable {ps : List Nat} {a b : Nat} {ds es fs : List Delivery} {α β γ δ : Type} {R : α → β → Prop} {S : γ → δ → Prop}

theorem along_pure {x : α} {y : β} (h : R x y) : Along ps a b ds ds R (pure x) (pure y) := fun _ _ hs => ⟨h, hs⟩

/-- Two steps, one behind the other. -/
theorem Along.bind {q : Quiet α} {q' : Quiet β} {f : α → Quiet γ} {f' : β → Quiet δ} (h : Along ps a b ds es R q q')
    (hf : ∀ x y, R x y → Along ps a b es fs S (f x) (f' y)) : Along ps a b ds fs S (q >>= f) (q' >>= f') := by
  intro s s' hs
  obtain ⟨hR, ht⟩ := h s s' hs
  exact hf _ _ hR _ _ ht

/-- A quiet step, and an action behind it. -/
theorem Along.bind_lift {q : Quiet α} {q' : Quiet β} {f : α → Action γ} {f' : β → Action δ}
    {T : Except Panic γ → Except Panic δ → Prop} (h : Along ps a b ds es R q q')
    (hf : ∀ x y, R x y → Along ps a b es fs T (catching (f x)) (catching (f' y))) :
    Along ps a b ds fs T (catching (liftM q >>= f)) (catching (liftM q' >>= f')) := by
  intro s s' hs
  obtain ⟨hR, ht⟩ := h s s' hs
  rw [catching_bind_lift, catching_bind_lift]
  exact hf _ _ hR _ _ ht

/-- The same step for each element of a list. -/
theorem along_mapM {ι : Type} {f : ι → Quiet α} {f' : ι → Quiet β} {xs : List ι}
    (h : ∀ x, Along ps a b ds ds R (f x) (f' x)) : Along ps a b ds ds (List.Forall₂ R) (xs.mapM f) (xs.mapM f') := by
  induction xs with
  | nil => exact along_pure .nil
  | cons x xs ih =>
    rw [List.mapM_cons, List.mapM_cons]
    exact (h x).bind fun _ _ hx => ih.bind fun _ _ hxs => along_pure (.cons hx hxs)

/-- Whatever becomes of the log, sessions stay abreast. -/
theorem Session.Abreast.logged {s s' : Session} (h : Abreast ps a b ds s s') (rs rs' : List Record) :
    Abreast ps a b ds (s.logged rs) (s'.logged rs') := { h with }

theorem along_event (level : Level) (name : String) (fields : List (String × String)) :
    Along ps a b ds ds (fun _ _ => True) (event level name fields) (event level name fields) := by
  intro s s' hs
  rw [run_event, run_event]
  exact ⟨trivial, hs.logged _ _⟩

/-- A draft that is raised in both sessions gets identities that are as far apart as all others. -/
theorem along_raiseDraft (d : Draft) :
    Along ps a b ds ds (Failure.Moved a b) (raiseDraft d) (raiseDraft d) := by
  rintro s s' ⟨hp, hp', hds, hds', k, hk, hk'⟩
  rw [run_raiseDraft, run_raiseDraft]
  refine ⟨?_, hp, hp', hds, hds', k + 1, congrArg (· + 1) hk, congrArg (· + 1) hk'⟩
  rw [hk, hk']
  exact .raised k d

/-! ## Conclusions -/

/-- What is concluded of collectors that differ in identities differs in identities. -/
theorem Collector.Moved.along_conclude {c c' : Collector} (hc : c.Moved a b c') (e : EngineEnd) :
    Along ps a b ds ds (Invocation.Moved a b) (catching (Invocation.conclude c e))
      (catching (Invocation.conclude c' e)) := by
  cases e with
  | panicked q => exact along_pure (.same _)
  | failed e => exact along_pure (.same _)
  | done =>
    obtain ⟨n, exception, violation⟩ := c
    obtain ⟨n', exception', violation'⟩ := c'
    obtain ⟨rfl, hexception, rfl⟩ := hc
    rw [Invocation.conclude, Invocation.conclude, Collector.finish, Collector.finish]
    by_cases hn : n = 0
    · rw [if_pos hn, if_pos hn]
      exact along_pure (.same _)
    · rw [if_neg hn, if_neg hn]
      cases hexception with
      | some h => exact along_pure (.testFailed h)
      | none =>
        cases violation with
        | none => exact along_pure (.same _)
        | some d =>
          -- what is concluded from a violation alone is raised here, in both sessions
          intro s s' hs
          obtain ⟨h, ht⟩ := along_raiseDraft (.ofFault (.unattributed d)) s s' hs
          exact ⟨.testFailed h, ht⟩

/-! ## Scripts -/

theorem Cue.along_observation (c : Cue) :
    Along ps a b ds ds (Observation.Moved a b) c.observation c.observation := by
  cases c with
  | raised d => exact (along_raiseDraft d).bind fun _ _ h => along_pure (.thrown h)
  | _ => exact along_pure (.same _)

/-- What a scripted engine answers: its ending is the one of the script. -/
theorem ScriptedRun.along_answer (r : ScriptedRun) : Along ps a b ds ds (Answer.Moved a b) r.answer r.answer :=
  (along_mapM Cue.along_observation).bind fun _ _ h => along_pure ⟨h, rfl⟩

/-- Engines that answer a payload along with each other reply to it in sessions that are abreast. -/
theorem Engine.abreast_reply {e e' : Engine} (hid : e.id = e'.id) {payload : Payload} {R : Answer → Answer → Prop}
    (h : ∀ es earlier, Along ps a b es es R (e.answer earlier payload) (e'.answer earlier payload)) {s s' : Session}
    (hs : Abreast ps a b ds s s') : R (e.reply payload s).1 (e'.reply payload s').1 ∧
      Abreast ps a b (ds ++ [⟨e.id, payload.tokens⟩]) (e.reply payload s).2 (e'.reply payload s').2 := by
  have hreceived : e'.received s' = e.received s := by
    rw [received, received, hs.deliveries, hs.deliveries', hid]
  have hsent : Abreast ps a b (ds ++ [⟨e.id, payload.tokens⟩])
      { s with deliveries := s.deliveries ++ [⟨e.id, payload.tokens⟩] }
      { s' with deliveries := s'.deliveries ++ [⟨e'.id, payload.tokens⟩] } := by
    refine ⟨hs.primed, hs.primed', congrArg (· ++ _) hs.deliveries, ?_, hs.next⟩
    rw [hs.deliveries', hid]
  rw [reply, reply, hreceived]
  exact h _ (e.received s) _ _ hsent

/-- Answers that differ in identities, to the same payload behind the same others, are followed alike. -/
theorem Engine.along_run {e e' : Engine} (hid : e.id = e'.id) {payload : Payload}
    (h : ∀ es earlier, Along ps a b es es (Answer.Moved a b) (e.answer earlier payload) (e'.answer earlier payload)) :
    Along ps a b ds (ds ++ [⟨e.id, payload.tokens⟩]) (fun x y => Collector.Moved a b x.1 y.1 ∧ x.2 = y.2)
      (e.run Collector.observe {} payload) (e'.run Collector.observe {} payload) := by
  intro s s' hs
  obtain ⟨⟨hobservations, hending⟩, ht⟩ := abreast_reply hid h hs
  rw [run_observe, run_observe]
  exact ⟨⟨Collector.Moved.foldl_add ⟨rfl, .none, rfl⟩ hobservations, hending⟩, ht.logged _ _⟩

/-- A scripted engine answers alike in sessions that are abreast. -/
theorem ScriptedEngine.along_answer (e : ScriptedEngine) (earlier : List Payload) (payload : Payload) :
    Along ps a b ds ds (Answer.Moved a b) (e.answer earlier payload) (e.answer earlier payload) := by
  rw [answer]
  split
  · exact ScriptedRun.along_answer _
  · exact ScriptedRun.along_answer _

/-- Scripted engines that differ in how they take a warm-up answer all other payloads alike. -/
theorem ScriptedEngine.along_run {e e' : ScriptedEngine} (he : e.runs = e'.runs) (id : Nat) {payload : Payload}
    (hpayload : payload ≠ .warmUp) : Along ps a b ds (ds ++ [⟨id, payload.tokens⟩])
      (fun x y => Collector.Moved a b x.1 y.1 ∧ x.2 = y.2)
      ((e.engine id).run Collector.observe {} payload) ((e'.engine id).run Collector.observe {} payload) := by
  refine Engine.along_run (show (e.engine id).id = (e'.engine id).id from rfl) fun es earlier => ?_
  show Along ps a b es es _ (e.answer earlier payload) (e'.answer earlier payload)
  rw [answer, answer, if_neg hpayload, if_neg hpayload, entry, entry, he]
  exact ScriptedRun.along_answer _

end Along

end Interleave
