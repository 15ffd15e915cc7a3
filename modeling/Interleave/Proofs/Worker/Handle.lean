import Mathlib.Algebra.GroupWithZero.Nat
import Interleave.Worker
import Interleave.Proofs.Session.Actions

/-!
# What a handle comes to

The holder of a handle and the thread behind it go on in turns, in any order. The one message of the thread can be
received only once, so what there is to be had of it depends on how far both have got.

- `WorkerHandle.Awaits`: all places in which a handle can stand of which one result is to come. A step of the thread
  leads from one to another (`Awaits.step`), and so does a look into the channel (`Awaits.joinWithin`).
- So calls one behind the other are answered by that result from the moment on at which the thread has spoken
  (`Awaits.joinAll`), and to join gives the same result (`Awaits.join`).
- A worker that is started awaits what it comes to when it is run (`Worker.awaits_of_start`).
-/

namespace Interleave

/-! ## Threads -/

theorem run_elsewhere {α : Type} (q : Quiet α) (s : Session) :
    (elsewhere q).run s = ((q.run s).1, { (q.run s).2 with log := s.log }) := rfl

namespace WorkerThread

/-- A worker that is run to its end is reported on. -/
theorem run_step_of_ok {w w' : Worker} {s t : Session} (hrun : w.run.run s = ((w', .ok ()), t))
    (c : Channel Outcome) :
    ((begins w).step c).run s = ((reports w'.outcome, c), { t with log := s.log }) := by
  rw [step, run_bind, run_elsewhere, hrun]
  rfl

/-- A panic that leaves the worker ends the thread. -/
theorem run_step_of_error {w w' : Worker} {p : Panic} {s t : Session} (hrun : w.run.run s = ((w', .error p), t))
    (c : Channel Outcome) : ((begins w).step c).run s = ((died, c.disconnect), { t with log := s.log }) := by
  rw [step, run_bind, run_elsewhere, hrun]
  rfl

/-- Whether the thread has reported, or has died without a report. -/
def spoken : WorkerThread → Bool
  | begins _ | reports _ => false
  | leaves | returned | died => true

/-- A thread that has spoken does nothing to the session. -/
theorem run_step_of_spoken {thread : WorkerThread} (h : thread.spoken) (c : Channel Outcome)
    (s : Session) : ∃ thread' c', (thread.step c).run s = ((thread', c'), s) ∧ thread'.spoken := by
  cases thread with
  | begins w => cases h
  | reports o => cases h
  | leaves => exact ⟨_, _, rfl, rfl⟩
  | returned => exact ⟨_, _, rfl, rfl⟩
  | died => exact ⟨_, _, rfl, rfl⟩

end WorkerThread

namespace WorkerHandle

theorem run_advance_succ (h : WorkerHandle) (n : Nat) (s : Session) : (h.advance (n + 1)).run s =
    (advance { h with thread := ((h.thread.step h.channel).run s).1.1,
                      channel := ((h.thread.step h.channel).run s).1.2 } n).run
      ((h.thread.step h.channel).run s).2 := rfl

/-- Steps behind steps are steps. -/
theorem run_advance_add (h : WorkerHandle) (n k : Nat) (s : Session) : (h.advance (n + k)).run s =
    (((h.advance n).run s).1.advance k).run ((h.advance n).run s).2 := by
  induction n generalizing h s with
  | zero => rw [Nat.zero_add]; rfl
  | succ n ih => rw [Nat.add_right_comm, run_advance_succ, ih, run_advance_succ]

/-- What the thread does is not heard until the holder looks. -/
theorem finished_advance (h : WorkerHandle) (n : Nat) (s : Session) :
    ((h.advance n).run s).1.finished = h.finished := by
  induction n generalizing h s with
  | zero => rfl
  | succ n ih => rw [run_advance_succ, ih]

theorem spoken_advance {h : WorkerHandle} (hspoken : h.thread.spoken) (n : Nat) (s : Session) :
    ((h.advance n).run s).1.thread.spoken := by
  induction n generalizing h s with
  | zero => exact hspoken
  | succ n ih =>
    obtain ⟨thread, channel, hstep, hspoken⟩ := WorkerThread.run_step_of_spoken hspoken h.channel s
    rw [run_advance_succ, hstep]
    exact ih hspoken s

/-- Whether the thread has spoken after so many steps from here. -/
def spokenBy (h : WorkerHandle) (s : Session) (n : Nat) : Bool := ((h.advance n).run s).1.thread.spoken

theorem spokenBy_add (h : WorkerHandle) (s : Session) (n k : Nat) : h.spokenBy s (n + k) =
    ((h.advance n).run s).1.spokenBy ((h.advance n).run s).2 k := by
  rw [spokenBy, spokenBy, run_advance_add]

/-- A thread that has spoken once has spoken for good. -/
theorem spokenBy_add_of_spokenBy {h : WorkerHandle} {s : Session} {n : Nat} (hspoken : h.spokenBy s n) (k : Nat) :
    h.spokenBy s (n + k) := by
  rw [spokenBy_add]
  exact spoken_advance hspoken k _

end WorkerHandle

/-- The failure that stands for a thread that has died without a report, with its identity. -/
def lostFailure (name : String) (id : Nat) : Failure := ⟨id, "weft::failure::Panicked", .panicked (lostText name)⟩

theorem WorkerState.ofOutcome_eq_finished_iff {o : Outcome} : ofOutcome o = finished ↔ o = .ok () := by
  rcases o with f | - <;> simp [ofOutcome]

/-! ## Results to come -/

/-- Where a handle and its session can stand if a result is to come. The trace is one until the body has run, and
another one from then on. -/
inductive WorkerHandle.Awaits (r : Outcome) (before behind : List Trace) : WorkerHandle → Session → Prop
  | begun {name : String} {w w' : Worker} {s t : Session} (hrun : w.run.run s = ((w', .ok ()), t))
      (hr : w'.outcome = r) (hbefore : s.trace = before) (hbehind : t.trace = behind) :
      Awaits r before behind { name, thread := .begins w } s
  | doomed {name : String} {w w' : Worker} {p : Panic} {s t : Session} (hrun : w.run.run s = ((w', .error p), t))
      (hr : .error (lostFailure name t.nextFailure) = r) (hbefore : s.trace = before) (hbehind : t.trace = behind) :
      Awaits r before behind { name, thread := .begins w } s
  | reporting {name : String} {s : Session} (hbehind : s.trace = behind) :
      Awaits r before behind { name, thread := .reports r } s
  | sent {name : String} {s : Session} (hbehind : s.trace = behind) :
      Awaits r before behind { name, thread := .leaves, channel := ⟨[r], true⟩ } s
  | left {name : String} {s : Session} (hbehind : s.trace = behind) :
      Awaits r before behind { name, thread := .returned, channel := ⟨[r], false⟩ } s
  | died {name : String} {s : Session} (hr : .error (lostFailure name s.nextFailure) = r)
      (hbehind : s.trace = behind) : Awaits r before behind { name, thread := .died, channel := ⟨[], false⟩ } s
  | received {h : WorkerHandle} {s : Session} (hr : h.finished = some r) (hspoken : h.thread.spoken)
      (hbehind : s.trace = behind) : Awaits r before behind h s

namespace WorkerHandle

/-- Calls one behind the other: the thread takes so many steps while the holder waits in each of them. -/
def joinAll (h : WorkerHandle) : List Nat → Quiet (WorkerHandle × List WorkerState)
  | [] => pure (h, [])
  | n :: ns => do
    let (h, a) ← h.joinWithin n
    let (h, as) ← h.joinAll ns
    return (h, a :: as)

theorem run_joinAll_cons (h : WorkerHandle) (n : Nat) (ns : List Nat) {s t u : Session} {h' h'' : WorkerHandle}
    {a : WorkerState} {as : List WorkerState} (hn : (h.joinWithin n).run s = ((h', a), t))
    (hns : (h'.joinAll ns).run t = ((h'', as), u)) : (h.joinAll (n :: ns)).run s = ((h'', a :: as), u) := by
  rw [joinAll, run_bind, hn]
  show (h'.joinAll ns >>= _ : Quiet _).run t = _
  rw [run_bind, hns]
  rfl

theorem run_joinWithin_of_finished {h : WorkerHandle} {r : Outcome} (hr : h.finished = some r) (n : Nat)
    (s : Session) : (h.joinWithin n).run s = ((h, .ofOutcome r), s) := by
  rw [joinWithin, hr]
  rfl

/-- What has come is what every later call is answered by. -/
theorem run_joinAll_of_finished {h : WorkerHandle} {r : Outcome} (hr : h.finished = some r) (ns : List Nat)
    (s : Session) : (h.joinAll ns).run s = ((h, List.replicate ns.length (.ofOutcome r)), s) := by
  induction ns with
  | nil => rfl
  | cons n ns ih => exact run_joinAll_cons h n ns (run_joinWithin_of_finished hr n s) ih

namespace Awaits

variable {r : Outcome} {before behind : List Trace} {h : WorkerHandle} {s : Session}

/-- The body has left its trace once, or has not run. -/
theorem trace (ha : Awaits r before behind h s) : s.trace = before ∨ s.trace = behind := by
  cases ha with
  | begun _ _ hbefore _ => exact Or.inl hbefore
  | doomed _ _ hbefore _ => exact Or.inl hbefore
  | reporting hbehind => exact Or.inr hbehind
  | sent hbehind => exact Or.inr hbehind
  | left hbehind => exact Or.inr hbehind
  | died _ hbehind => exact Or.inr hbehind
  | received _ _ hbehind => exact Or.inr hbehind

/-- One step of the thread takes nothing from the result. -/
theorem step (ha : Awaits r before behind h s) : ∃ thread channel t,
    (h.thread.step h.channel).run s = ((thread, channel), t) ∧
      Awaits r before behind { h with thread, channel } t := by
  cases ha with
  | begun hrun hr _ hbehind =>
    refine ⟨_, _, _, WorkerThread.run_step_of_ok hrun {}, ?_⟩
    rw [hr]
    exact .reporting hbehind
  | doomed hrun hr _ hbehind => exact ⟨_, _, _, WorkerThread.run_step_of_error hrun {}, .died hr hbehind⟩
  | reporting hbehind => exact ⟨_, _, _, rfl, .sent hbehind⟩
  | sent hbehind => exact ⟨_, _, _, rfl, .left hbehind⟩
  | left hbehind => exact ⟨_, _, _, rfl, .left hbehind⟩
  | died hr hbehind => exact ⟨_, _, _, rfl, .died hr hbehind⟩
  | received hr hspoken hbehind =>
    obtain ⟨thread, channel, hstep, hspoken⟩ := WorkerThread.run_step_of_spoken hspoken h.channel s
    exact ⟨thread, channel, s, hstep, .received hr hspoken hbehind⟩

/-- Steps of the thread take nothing from the result. -/
theorem advance (ha : Awaits r before behind h s) (n : Nat) :
    Awaits r before behind ((h.advance n).run s).1 ((h.advance n).run s).2 := by
  induction n generalizing h s with
  | zero => exact ha
  | succ n ih =>
    obtain ⟨thread, channel, t, hstep, ha⟩ := ha.step
    rw [run_advance_succ, hstep]
    exact ih ha

/-- The result has come, or is yet to come. -/
theorem finished (ha : Awaits r before behind h s) :
    h.finished = some r ∧ h.thread.spoken ∨ h.finished = none := by
  cases ha with
  | received hr hspoken _ => exact Or.inl ⟨hr, hspoken⟩
  | _ => exact Or.inr rfl

/-- Who looks into the channel gets the result if the thread has spoken, and hears nothing otherwise. -/
theorem look (ha : Awaits r before behind h s) (hfinished : h.finished = none) :
    if h.thread.spoken then
      ∃ h' t, h.look.run s = ((h', .ofOutcome r), t) ∧ h'.finished = some r ∧ Awaits r before behind h' t
    else h.look.run s = ((h, .running), s) := by
  cases ha with
  | begun _ _ _ _ => rfl
  | doomed _ _ _ _ => rfl
  | reporting _ => rfl
  | sent hbehind => exact ⟨_, _, rfl, rfl, .received rfl rfl hbehind⟩
  | left hbehind => exact ⟨_, _, rfl, rfl, .received rfl rfl hbehind⟩
  | died hr hbehind =>
    subst hr
    exact ⟨_, _, rfl, rfl, .received rfl rfl hbehind⟩
  | received hr _ _ =>
    rw [hr] at hfinished
    cases hfinished

/-- A holder who waits gets the result if the thread has spoken by then, and hears nothing otherwise. -/
theorem joinWithin (ha : Awaits r before behind h s) (n : Nat) :
    if h.spokenBy s n then
      ∃ h' t, (h.joinWithin n).run s = ((h', .ofOutcome r), t) ∧ h'.finished = some r ∧ Awaits r before behind h' t
    else (h.joinWithin n).run s = ((((h.advance n).run s).1, .running), ((h.advance n).run s).2) := by
  rcases ha.finished with ⟨hr, hspoken⟩ | hnone
  · rw [if_pos (show h.spokenBy s n from spoken_advance hspoken n s)]
    exact ⟨h, s, run_joinWithin_of_finished hr n s, hr, ha⟩
  · have hrun : (h.joinWithin n).run s = ((h.advance n).run s).1.look.run ((h.advance n).run s).2 := by
      rw [WorkerHandle.joinWithin, hnone]
      rfl
    have hfinished : ((h.advance n).run s).1.finished = none := by
      rw [finished_advance, hnone]
    rw [hrun]
    exact (ha.advance n).look hfinished

/-- **Calls one behind the other.** The thread takes so many steps during each of them. Up to some call the worker is
running, and from there on each call is answered by the result; these are the calls by whose end the thread has
spoken. -/
theorem joinAll (ha : Awaits r before behind h s) (ns : List Nat) : ∃ h' t k l,
    (h.joinAll ns).run s = ((h', List.replicate k .running ++ List.replicate l (.ofOutcome r)), t) ∧
      k + l = ns.length ∧ (∀ i < ns.length, k ≤ i ↔ h.spokenBy s (ns.take (i + 1)).sum) ∧
      Awaits r before behind h' t := by
  induction ns generalizing h s with
  | nil => exact ⟨h, s, 0, 0, rfl, rfl, nofun, ha⟩
  | cons n ns ih =>
    have hn := ha.joinWithin n
    by_cases hspoken : h.spokenBy s n
    · -- the result has come: it answers all calls that are left
      rw [if_pos hspoken] at hn
      obtain ⟨h', t, hrun, hfinished, ha'⟩ := hn
      refine ⟨h', t, 0, ns.length + 1, run_joinAll_cons h n ns hrun (run_joinAll_of_finished hfinished ns t),
        Nat.zero_add _, fun i _ => ⟨fun _ => ?_, fun _ => i.zero_le⟩, ha'⟩
      rw [List.take_succ_cons, List.sum_cons]
      exact spokenBy_add_of_spokenBy hspoken _
    · -- a call in vain leaves the handle where its steps have led: steps are counted from there on
      rw [if_neg hspoken] at hn
      obtain ⟨h', t, k, l, hrun, hlength, hspokenBy, ha'⟩ := ih (ha.advance n)
      refine ⟨h', t, k + 1, l, run_joinAll_cons h n ns hn hrun, ?_, ?_, ha'⟩
      · rw [List.length_cons, ← hlength, Nat.add_right_comm]
      · intro i hi
        rw [List.take_succ_cons, List.sum_cons]
        cases i with
        | zero => simp [hspoken]
        | succ i =>
          rw [spokenBy_add, Nat.add_le_add_iff_right]
          exact hspokenBy i (Nat.lt_of_succ_lt_succ hi)

/-- Who joins gets the result, and the body has run. -/
theorem join (ha : Awaits r before behind h s) : ∃ t, h.join.run s = (r, t) ∧ t.trace = behind := by
  cases ha with
  | @begun name w w' s t hrun hr _ hbehind =>
    -- behind the first step, which runs a body that is not known, all computes
    have hjoin : (WorkerHandle.mk name (.begins w) {} false none).join.run s =
        (WorkerHandle.mk name (.reports w'.outcome) {} false none).join.run { t with log := s.log } := by
      show (WorkerHandle.advance _ 3 >>= _ : Quiet Outcome).run s = _
      rw [run_bind, run_advance_succ, WorkerThread.run_step_of_ok hrun]
      rfl
    rw [hjoin, hr]
    exact ⟨_, rfl, hbehind⟩
  | @doomed name w w' p s t hrun hr _ hbehind =>
    have hjoin : (WorkerHandle.mk name (.begins w) {} false none).join.run s =
        (WorkerHandle.mk name .died ⟨[], false⟩ false none).join.run { t with log := s.log } := by
      show (WorkerHandle.advance _ 3 >>= _ : Quiet Outcome).run s = _
      rw [run_bind, run_advance_succ, WorkerThread.run_step_of_error hrun]
      rfl
    rw [hjoin]
    exact ⟨_, Prod.ext hr rfl, hbehind⟩
  | reporting hbehind => exact ⟨_, rfl, hbehind⟩
  | sent hbehind => exact ⟨_, rfl, hbehind⟩
  | left hbehind => exact ⟨_, rfl, hbehind⟩
  | died hr hbehind => exact ⟨_, Prod.ext hr rfl, hbehind⟩
  | received hr _ hbehind =>
    rw [WorkerHandle.join, hr]
    exact ⟨s, rfl, hbehind⟩

/-- A holder who waits any number of times hears of no other result, and who joins then gets it. -/
theorem told (ha : Awaits r before behind h s) (ns : List Nat) :
    (∀ a ∈ ((h.joinAll ns).run s).1.2, a = .running ∨ a = .ofOutcome r) ∧
      (((h.joinAll ns).run s).1.1.join.run ((h.joinAll ns).run s).2).1 = r := by
  obtain ⟨h', t, k, l, hrun, -, -, ha'⟩ := ha.joinAll ns
  obtain ⟨t', hjoin, -⟩ := ha'.join
  rw [hrun]
  refine ⟨fun a hmem => ?_, congrArg Prod.fst hjoin⟩
  exact (List.mem_append.1 hmem).imp List.eq_of_mem_replicate List.eq_of_mem_replicate

end Awaits

end WorkerHandle

end Interleave
