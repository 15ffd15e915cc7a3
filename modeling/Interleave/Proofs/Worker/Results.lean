import Interleave.Proofs.Text.Bytes
import Interleave.Proofs.Worker.Handle

/-!
# What a worker comes to

- `WorkerEnding.captured`, `WorkerEnding.reported`: the failure that a run keeps of the ending of a body, and the
  result that a started worker owes for it. They differ only in a body that bursts.
- However often a worker is run on the spot, its body runs the first time and never again (`Worker.run_runTimes`).
- A worker that is started reports one result, whenever its thread gets on and however often it is asked
  (`Worker.reports_one_result`).
- No failure of a body is passed over, unless the body bursts in a run on the spot (`Worker.keepsFailure_iff`): the
  worker has let go of the body by then and looks as if it had passed.
-/

namespace Interleave

open Session

/-! ## Endings -/

namespace WorkerEnding

/-- The failure that a run keeps, if its identity is yet to be given. -/
def captured (id : Nat) : WorkerEnding → Option Failure
  | ends .passes => none
  | ends (.raises f) => some f
  | ends (.fails d) => some ⟨id, d.typeName, d.fault⟩
  | ends (.panics p) => some ⟨id, "weft::failure::Panicked", .panicked p.payload.message⟩
  | bursts _ => none

/-- The panic that leaves a run. -/
def escaping : WorkerEnding → Except Panic Unit
  | ends _ => .ok ()
  | bursts text => .error ⟨.text text, .body⟩

/-- The result that a started worker of that name owes: a body that bursts takes the thread along, and the identity
that its own failure has got is gone. -/
def reported (name : String) (id : Nat) : WorkerEnding → Outcome
  | ends e => ((ends e).captured id).elim (.ok ()) .error
  | bursts _ => .error (lostFailure name (id + 1))

/-- The result that is owed if the worker has been run that often on the spot before it is started. -/
def owed (e : WorkerEnding) (name : String) (id : Nat) : Nat → Outcome
  | 0 => e.reported name id
  | _ + 1 => (e.captured id).elim (.ok ()) .error

section

variable (name : String) (id : Nat) (e : WorkerEnding)

/-- Success is reported of a body that passes, and of no other. -/
theorem reported_eq_ok_iff : e.reported name id = .ok () ↔ e = .ends .passes := by
  rcases e with (_ | _ | _ | _) | _ <;> simp [reported, captured]

/-- Runs on the spot change nothing in the result, unless the body bursts in them. -/
theorem owed_eq_reported {e : WorkerEnding} {n : Nat} (h : ¬ (0 < n ∧ ∃ text, e = .bursts text)) :
    e.owed name id n = e.reported name id := by
  cases n with
  | zero => rfl
  | succ n =>
    cases e with
    | ends e => rfl
    | bursts text => exact absurd ⟨n.succ_pos, text, rfl⟩ h

/-- A panic leaves the run of a body that bursts. -/
theorem escaping_eq_ok_iff : e.escaping = .ok () ↔ ¬ ∃ text, e = .bursts text := by
  cases e <;> simp [escaping]

/-- A run keeps a failure of each body that neither passes nor bursts. -/
theorem isSome_captured {e : WorkerEnding} (hfails : e ≠ .ends .passes) (hbursts : ¬ ∃ text, e = .bursts text) :
    (e.captured id).isSome := by
  rcases e with (_ | _ | _ | _) | text
  · exact absurd rfl hfails
  · rfl
  · rfl
  · rfl
  · exact absurd ⟨text, rfl⟩ hbursts

end

end WorkerEnding

namespace Worker

/-- A run of a new worker runs the body and lets go of it. -/
theorem run_run_ofBody (b : Quiet WorkerEnding) {e : WorkerEnding} {s u : Session} (hb : b.run s = (e, u)) :
    ∃ t, (ofBody b).run.run s = ((⟨none, e.captured u.nextFailure⟩, e.escaping), t) ∧ t.trace = u.trace ∧
      ∀ text, e = .bursts text → t.nextFailure = u.nextFailure + 1 := by
  have hrun : (ofBody b).run.run s = (e.outcome >>= settle {}).run u := by
    show (b >>= _ : Quiet _).run s = _
    rw [run_bind, hb]
    rfl
  rw [hrun]
  rcases e with (_ | _ | _ | _) | _
  · exact ⟨_, rfl, rfl, nofun⟩
  · exact ⟨_, rfl, rfl, nofun⟩
  · exact ⟨_, rfl, rfl, nofun⟩
  · exact ⟨_, rfl, rfl, nofun⟩
  · exact ⟨_, rfl, rfl, fun _ _ => rfl⟩

/-- A run of a worker that has let go of its body does nothing. -/
theorem run_run_of_spent {w : Worker} (h : w.body = none) (s : Session) : w.run.run s = ((w, .ok ()), s) := by
  rw [run, h]
  rfl

/-! ## Runs on the spot -/

/-- Runs a worker so many times; the caller catches the panics that leave it. -/
def runTimes (w : Worker) : Nat → Quiet (Worker × List (Except Panic Unit))
  | 0 => pure (w, [])
  | n + 1 => do
    let (w, r) ← w.run
    let (w, rs) ← w.runTimes n
    return (w, r :: rs)

theorem run_runTimes_succ {w w' : Worker} {r : Except Panic Unit} {s t : Session}
    (hrun : w.run.run s = ((w', r), t)) (n : Nat) : (w.runTimes (n + 1)).run s =
      ((((w'.runTimes n).run t).1.1, r :: ((w'.runTimes n).run t).1.2), ((w'.runTimes n).run t).2) := by
  rw [runTimes, run_bind, hrun]
  rfl

/-- More runs of a worker that has let go of its body do nothing. -/
theorem run_runTimes_of_spent {w : Worker} (h : w.body = none) (n : Nat) (s : Session) :
    (w.runTimes n).run s = ((w, List.replicate n (.ok ())), s) := by
  induction n with
  | zero => rfl
  | succ n ih => rw [run_runTimes_succ (run_run_of_spent h s), ih, List.replicate_succ]

/-- However often a new worker is run, only the first run is one. -/
theorem run_runTimes (b : Quiet WorkerEnding) {e : WorkerEnding} {s u : Session} (hb : b.run s = (e, u)) (n : Nat) :
    ∃ t, ((ofBody b).runTimes (n + 1)).run s =
      ((⟨none, e.captured u.nextFailure⟩, e.escaping :: List.replicate n (.ok ())), t) ∧ t.trace = u.trace := by
  obtain ⟨t, hrun, htrace, -⟩ := run_run_ofBody b hb
  refine ⟨t, ?_, htrace⟩
  rw [run_runTimes_succ hrun, run_runTimes_of_spent rfl]

/-- All runs return, unless there are any and the body bursts. -/
theorem runTimes_return_iff (b : Quiet WorkerEnding) {e : WorkerEnding} {s u : Session} (hb : b.run s = (e, u))
    (n : Nat) : (∀ r ∈ (((ofBody b).runTimes n).run s).1.2, r = .ok ()) ↔ ¬ (0 < n ∧ ∃ text, e = .bursts text) := by
  cases n with
  | zero => exact iff_of_true (fun r hr => absurd hr List.not_mem_nil) fun h => Nat.lt_irrefl 0 h.1
  | succ n =>
    obtain ⟨t, hrun, -⟩ := run_runTimes b hb n
    have hsame : (∀ r ∈ e.escaping :: List.replicate n (.ok ()), r = .ok ()) ↔ e.escaping = .ok () :=
      ⟨fun h => h _ List.mem_cons_self, fun h r hr =>
        (List.mem_cons.1 hr).elim (fun hr => hr.trans h) List.eq_of_mem_replicate⟩
    rw [hrun, hsame, WorkerEnding.escaping_eq_ok_iff]
    exact ⟨fun h hbursts => h hbursts.2, fun h hbursts => h ⟨n.succ_pos, hbursts⟩⟩

/-! ## Threads -/

/-- A thread gets a new worker to run: what it owes is for the ending of the body. -/
theorem awaits_ofBody (b : Quiet WorkerEnding) (name : String) {e : WorkerEnding} {s u : Session}
    (hb : b.run s = (e, u)) : WorkerHandle.Awaits (e.reported name u.nextFailure) s.trace u.trace
      { name, thread := .begins (ofBody b) } s := by
  obtain ⟨t, hrun, htrace, hnext⟩ := run_run_ofBody b hb
  cases e with
  | ends e => exact .begun hrun rfl rfl htrace
  | bursts text =>
    refine .doomed hrun ?_ rfl htrace
    rw [hnext text rfl]
    rfl

/-- A thread gets a worker that has let go of its body: what it owes is what was captured. -/
theorem awaits_of_spent {w : Worker} (h : w.body = none) (name : String) (s : Session) :
    WorkerHandle.Awaits w.outcome s.trace s.trace { name, thread := .begins w } s :=
  .begun (run_run_of_spent h s) rfl rfl rfl

/-- A worker starts on a thread of its own, if the name holds no zero byte. -/
theorem run_start (w : Worker) {name : String} (hname : name.toUTF8.toList.contains 0 = false) (s : Session) :
    (w.start name).run s = (.ok { name, thread := .begins w }, s) := by
  rw [start, if_neg (Bool.eq_false_iff.1 hname)]
  rfl

/-- A name without a zero byte. -/
theorem contains_zero_w : "w".toUTF8.toList.contains 0 = false := by
  show (Text.encode "w").contains 0 = false
  rw [Text.encode_eq]
  rfl

theorem eq_of_run_start {w : Worker} {name : String} {h : WorkerHandle} {s t : Session}
    (hstart : (w.start name).run s = (.ok h, t)) : h = { name, thread := .begins w } ∧ t = s := by
  rw [start] at hstart
  split at hstart
  · cases hstart
  · cases hstart
    exact ⟨rfl, rfl⟩

/-- Whatever a worker has come to on the spot, its handle awaits a result. -/
theorem exists_awaits (b : Quiet WorkerEnding) {e : WorkerEnding} {s u : Session} (hb : b.run s = (e, u)) (n : Nat)
    {name : String} {h : WorkerHandle} {t : Session}
    (hstart : ((((ofBody b).runTimes n).run s).1.1.start name).run (((ofBody b).runTimes n).run s).2 = (.ok h, t)) :
    ∃ before, (before = s.trace ∨ before = u.trace) ∧
      WorkerHandle.Awaits (e.owed name u.nextFailure n) before u.trace h t := by
  obtain ⟨rfl, rfl⟩ := eq_of_run_start hstart
  cases n with
  | zero => exact ⟨s.trace, Or.inl rfl, awaits_ofBody b name hb⟩
  | succ n =>
    obtain ⟨t, hrun, htrace⟩ := run_runTimes b hb n
    rw [hrun, ← htrace]
    exact ⟨t.trace, Or.inr rfl, awaits_of_spent (w := ⟨none, _⟩) rfl name t⟩

/-! ## Results -/

/-- **One result.** A worker is run on the spot any number of times, all of which return, and then started. The holder
waits any number of times, during each of which the thread takes any number of steps, and then joins. The answers are
that the worker is running, up to the call by whose end the thread has spoken, and the one result from there on, which
joining gives as well. It is success exactly if the body has passed. The body has not run, or has run once. -/
theorem reports_one_result (b : Quiet WorkerEnding) (n : Nat) (name : String) (waits : List Nat)
    {s s' t : Session} {w : Worker} {h : WorkerHandle}
    (hruns : ((ofBody b).runTimes n).run s = ((w, List.replicate n (.ok ())), s'))
    (hstart : (w.start name).run s' = (.ok h, t)) :
    let e := (b.run s).1
    let u := (b.run s).2
    let r := e.reported name u.nextFailure
    (r = .ok () ↔ e = .ends .passes) ∧
    ∃ h' t' k l, (h.joinAll waits).run t = ((h', List.replicate k .running ++ List.replicate l (.ofOutcome r)), t') ∧
      k + l = waits.length ∧ (∀ i < waits.length, k ≤ i ↔ h.spokenBy t (waits.take (i + 1)).sum) ∧
      (t'.trace = s.trace ∨ t'.trace = u.trace) ∧
      ∃ t'', h'.join.run t' = (r, t'') ∧ t''.trace = u.trace := by
  intro e u r
  have hb : b.run s = (e, u) := rfl
  have hreturns : ¬ (0 < n ∧ ∃ text, e = .bursts text) := by
    rw [← runTimes_return_iff b hb, hruns]
    exact fun r => List.eq_of_mem_replicate
  obtain ⟨before, hbefore, ha⟩ := exists_awaits b hb n (by rw [hruns]; exact hstart)
  rw [WorkerEnding.owed_eq_reported name _ hreturns] at ha
  obtain ⟨h', t', k, l, hjoins, hlength, hspoken, ha'⟩ := ha.joinAll waits
  refine ⟨WorkerEnding.reported_eq_ok_iff name _ e, h', t', k, l, hjoins, hlength, hspoken, ?_, ha'.join⟩
  rcases ha'.trace with htrace | htrace
  · rcases hbefore with hbefore | hbefore
    · exact Or.inl (htrace.trans hbefore)
    · exact Or.inr (htrace.trans hbefore)
  · exact Or.inr htrace

/-- A body that leaves a mark and bursts, on a thread that gets to it while the holder waits a second time. -/
theorem reports_one_result_bursts :
    let b : Quiet WorkerEnding := do mark (.ran "adds"); return .bursts "boom"
    let f : Failure := ⟨1, "weft::failure::Panicked", .panicked "worker w exited without reporting"⟩
    ∃ h h' t' t'', ((ofBody b).start "w").run .start = (.ok h, .start) ∧
      (h.joinAll [0, 1, 0]).run .start = ((h', [.running, .failed f, .failed f]), t') ∧
      h'.join.run t' = (.error f, t'') ∧ t''.trace = [.ran "adds"] := by
  intro b f
  have hstart := run_start (ofBody b) contains_zero_w .start
  obtain ⟨-, h', t', k, l, hjoins, hlength, hspoken, -, t'', hjoin, htrace⟩ :=
    reports_one_result b 0 "w" [0, 1, 0] (s := .start) rfl hstart
  have h0 : ¬ k ≤ 0 := fun hk => Bool.false_ne_true ((hspoken 0 (by decide)).1 hk)
  have h1 : k ≤ 1 := (hspoken 1 (by decide)).2 rfl
  obtain rfl : k = 1 := by omega
  obtain rfl : l = 2 := Nat.add_left_cancel (hlength.trans (show 3 = 1 + 2 from rfl))
  exact ⟨_, h', t', t'', hstart, hjoins, hjoin, htrace⟩

/-! ## Failures that are passed over -/

/-- No operation passes over a failure of the body: runs on the spot return, and leave the failure behind; and whoever
waits for a thread, and joins it, never hears of a success. -/
structure KeepsFailure (b : Quiet WorkerEnding) (n : Nat) (name : String) (waits : List Nat) (s : Session) : Prop where
  returns : ∀ r ∈ (((ofBody b).runTimes n).run s).1.2, r = .ok ()
  present : 0 < n → (((ofBody b).runTimes n).run s).1.1.failure.isSome
  told : ∀ h t, ((((ofBody b).runTimes n).run s).1.1.start name).run (((ofBody b).runTimes n).run s).2 = (.ok h, t) →
    (∀ a ∈ ((h.joinAll waits).run t).1.2, a ≠ .finished) ∧
      (((h.joinAll waits).run t).1.1.join.run ((h.joinAll waits).run t).2).1 ≠ .ok ()

/-- **No failure is passed over**, however often the worker is run on the spot, and whenever its thread gets on, unless
the body bursts in a run on the spot. Then that run does not return, later ones do nothing, the worker has no failure,
and a thread of it reports success. -/
theorem keepsFailure_iff (b : Quiet WorkerEnding) (n : Nat) (name : String) (waits : List Nat) {e : WorkerEnding}
    {s u : Session} (hb : b.run s = (e, u)) (hfails : e ≠ .ends .passes) :
    (KeepsFailure b n name waits s ↔ ¬ (0 < n ∧ ∃ text, e = .bursts text)) ∧
    (∀ text, e = .bursts text → ∃ t, ((ofBody b).runTimes (n + 1)).run s =
        (({}, .error ⟨.text text, .body⟩ :: List.replicate n (.ok ())), t) ∧
      ∀ h t', (({} : Worker).start name).run t = (.ok h, t') →
        (∀ a ∈ ((h.joinAll waits).run t').1.2, a = .running ∨ a = .finished) ∧
          (((h.joinAll waits).run t').1.1.join.run ((h.joinAll waits).run t').2).1 = .ok ()) := by
  refine ⟨⟨fun hkept => (runTimes_return_iff b hb n).1 hkept.returns, fun hreturns => ⟨?_, fun hn => ?_, ?_⟩⟩, ?_⟩
  · exact (runTimes_return_iff b hb n).2 hreturns
  · obtain ⟨n, rfl⟩ := Nat.exists_eq_succ_of_ne_zero (Nat.ne_zero_of_lt hn)
    obtain ⟨t, hrun, -⟩ := run_runTimes b hb n
    rw [hrun]
    exact WorkerEnding.isSome_captured _ hfails fun hbursts => hreturns ⟨hn, hbursts⟩
  · intro h t hstart
    obtain ⟨before, -, ha⟩ := exists_awaits b hb n hstart
    rw [WorkerEnding.owed_eq_reported name _ hreturns] at ha
    obtain ⟨hanswers, hjoin⟩ := ha.told waits
    have hfailed : e.reported name u.nextFailure ≠ .ok () := fun h =>
      hfails ((WorkerEnding.reported_eq_ok_iff name _ e).1 h)
    refine ⟨fun a hmem hfinished => ?_, fun h => hfailed (hjoin.symm.trans h)⟩
    rcases hanswers a hmem with ha | ha
    · cases hfinished.symm.trans ha
    · exact hfailed (WorkerState.ofOutcome_eq_finished_iff.1 (ha.symm.trans hfinished))
  · -- the worker is the one without body and failure, as if it had run a body that passes
    rintro text rfl
    obtain ⟨t, hrun, -⟩ := run_runTimes b hb n
    refine ⟨t, hrun, fun h t' hstart => ?_⟩
    obtain ⟨rfl, rfl⟩ := eq_of_run_start hstart
    exact (awaits_of_spent (w := {}) rfl name t').told waits

/-- A body that bursts on a thread, and one that does so on the spot. -/
theorem keepsFailure_iff_bursts : KeepsFailure (pure (.bursts "boom")) 0 "w" [0, 3] .start ∧
    ¬ KeepsFailure (pure (.bursts "boom")) 1 "w" [0, 3] .start := by
  have hiff := fun n => keepsFailure_iff (pure (.bursts "boom")) n "w" [0, 3] (s := .start) rfl nofun
  exact ⟨(hiff 0).1.2 fun h => Nat.lt_irrefl 0 h.1, fun h => (hiff 1).1.1 h ⟨Nat.one_pos, "boom", rfl⟩⟩

/-- A body that bursts as it is run on the spot: the panic leaves the worker, which has no failure from then on, does
nothing in another run, and is reported as a success. -/
theorem run_forgets_burst :
    let w := ofBody (pure (.bursts "boom"))
    ∃ t h, (w.runTimes 2).run .start = (({}, [.error ⟨.text "boom", .body⟩, .ok ()]), t) ∧
      (({} : Worker).start "w").run t = (.ok h, t) ∧ (h.join.run t).1 = .ok () ∧
      ¬ KeepsFailure (pure (.bursts "boom")) 1 "w" [] .start := by
  intro w
  refine ⟨_, _, rfl, run_start {} contains_zero_w _, rfl, fun hkept => ?_⟩
  cases hkept.present Nat.one_pos

end Worker

end Interleave
