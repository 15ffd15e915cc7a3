import Interleave.Proofs.Engine.Writing
import Interleave.Proofs.Event.Truncation

/-!
# Events that are passed on

A process may read the events of another one and write them again for a third.

- `Event.relay`: reads a stream of events and passes each of them on to a writer.
- A failure that comes from elsewhere has its backtrace in its fault, where no event is made from it, and none is
  captured where it arrives: what is written again is the event without its backtrace (`Event.run_forward`,
  `Event.written_relay`). A second relay changes nothing more (`Event.written_relays`).
- So a stream passes through any number of processes as it is exactly if it has no backtraces, and all else survives in
  any case (`Event.relayed_unchanged_iff`).
-/

namespace Interleave

namespace Event

/-! ## Backtraces -/

/-- The backtrace of an event. -/
def backtrace? : Event → Option String
  | exception _ _ b => b
  | completed => none
  | violation _ => none

/-- An event with all but its backtrace. -/
def withoutBacktrace : Event → Event
  | exception t m _ => exception t m none
  | completed => completed
  | violation d => violation d

theorem withoutBacktrace_eq_self_iff {e : Event} : e.withoutBacktrace = e ↔ e.backtrace? = none := by
  cases e with
  | exception t m b => cases b <;> simp [withoutBacktrace, backtrace?]
  | completed => exact iff_of_true rfl rfl
  | violation d => exact iff_of_true rfl rfl

theorem backtrace?_withoutBacktrace (e : Event) : e.withoutBacktrace.backtrace? = none := by
  cases e <;> rfl

theorem map_withoutBacktrace_eq_self_iff {es : List Event} :
    es.map withoutBacktrace = es ↔ ∀ e ∈ es, e.backtrace? = none := by
  calc es.map withoutBacktrace = es ↔ es.map withoutBacktrace = es.map id := by rw [List.map_id]
    _ ↔ ∀ e ∈ es, e.backtrace? = none := by simp only [List.map_inj_left, id_eq, withoutBacktrace_eq_self_iff]

/-- Different events are written in different ways. -/
theorem flatMap_bytes_inj {es es' : List Event} : es.flatMap bytes = es'.flatMap bytes ↔ es = es' := by
  refine ⟨fun h => ?_, congrArg _⟩
  have hread := congrArg ofBytes h
  rw [ofBytes_flatMap, ofBytes_flatMap] at hread
  exact congrArg Prod.fst hread

/-! ## Relays -/

/-- Reads a stream of events, and passes them on to a writer whose output takes everything. -/
def relay (stream : List UInt8) : Quiet EventWriter :=
  (ofBytes stream).1.foldlM (forward EventWriter.observe) { sink := {} }

/-- The event of a failure from elsewhere names its type and its message, whatever is captured with other failures. -/
theorem ofFailure_remote (t m : String) (b : Option String) (s : Session) (captured : Backtraces) :
    ofFailure ((Session.raiseDraft (.remote t m b)).run s).1 captured = exception t m none := by
  have hremote : ((Session.raiseDraft (.remote t m b)).run s).1.isRemote = true := beq_self_eq_true t
  rw [ofFailure, Failure.backtrace?, if_pos hremote]
  exact congrArg (exception t · none) (Fault.text_remote t m b)

/-- The backtrace of a failure that is raised here crosses. -/
example : ofFailure ⟨0, "my::LostUpdate", .custom "my::LostUpdate" "counter reached 1" none⟩
    (fun _ => some "0: my::worker") = exception "my::LostUpdate" "counter reached 1" (some "0: my::worker") := by
  rfl

/-- An event that is passed on to a writer is written without its backtrace. -/
theorem run_forward (w : EventWriter) (e : Event) (s : Session) :
    ((forward EventWriter.observe w e).run s).1 = w.write e.withoutBacktrace := by
  obtain ⟨log, hrun⟩ := w.run_observe (e.observation.run s).1 (e.observation.run s).2
  rw [forward, run_bind, hrun]
  cases e with
  | exception t m b => exact congrArg w.write (ofFailure_remote t m b s _)
  | completed => rfl
  | violation d => rfl

theorem run_foldlM_forward (w : EventWriter) (es : List Event) (s : Session) :
    ((es.foldlM (forward EventWriter.observe) w).run s).1 = (es.map withoutBacktrace).foldl EventWriter.write w := by
  induction es generalizing w s with
  | nil => rfl
  | cons e es ih =>
    rw [List.foldlM_cons, run_bind, ih, run_forward]
    rfl

theorem written_relay (es : List Event) (s : Session) :
    ((relay (es.flatMap bytes)).run s).1.sink.written = (es.map withoutBacktrace).flatMap bytes := by
  have htakes : ({} : Sink).Takes ((es.map withoutBacktrace).map bytes) := fun _ _ _ => rfl
  rw [relay, ofBytes_flatMap, run_foldlM_forward, EventWriter.foldl_write_of_takes htakes]
  exact List.nil_append _

/-- However many relays a stream passes, at least one, it loses its backtraces and nothing else. -/
theorem written_relays (es : List Event) (s : Session) (ss : List Session) :
    (s :: ss).foldl (fun sent t => ((relay sent).run t).1.sink.written) (es.flatMap bytes) =
      (es.map withoutBacktrace).flatMap bytes := by
  rw [List.foldl_cons, written_relay]
  have hself : (es.map withoutBacktrace).map withoutBacktrace = es.map withoutBacktrace := by
    refine map_withoutBacktrace_eq_self_iff.2 fun e he => ?_
    obtain ⟨e, -, rfl⟩ := List.mem_map.1 he
    exact e.backtrace?_withoutBacktrace
  induction ss with
  | nil => rfl
  | cons t ss ih => rw [List.foldl_cons, written_relay, hself, ih]

/-- **What survives a relay.** Whatever events a stream has, and however many processes pass them on, at least one, the
same events arrive in the same order, with their type names, messages and descriptions, but without backtraces. So the
stream arrives as it was sent exactly if it had none. A single failure from elsewhere is described by its type name and
its message, and hence by the event that it was made from exactly if that had no backtrace. -/
theorem relayed_unchanged_iff (es : List Event) (s : Session) (ss : List Session) :
    let arrived := (s :: ss).foldl (fun sent t => ((relay sent).run t).1.sink.written) (es.flatMap bytes)
    arrived = (es.map withoutBacktrace).flatMap bytes ∧
    ofBytes arrived = (es.map withoutBacktrace, .complete) ∧
    (arrived = es.flatMap bytes ↔ ∀ e ∈ es, e.backtrace? = none) ∧
    ∀ (typeName message : String) (b : Option String),
      let e := ofFailure ((Session.raiseDraft (.remote typeName message b)).run s).1 s.backtraces
      e = exception typeName message none ∧ (e = exception typeName message b ↔ b = none) := by
  intro arrived
  have harrived : arrived = (es.map withoutBacktrace).flatMap bytes := written_relays es s ss
  refine ⟨harrived, by rw [harrived, ofBytes_flatMap], ?_, fun t m b => ⟨ofFailure_remote t m b s _, ?_⟩⟩
  · rw [harrived, flatMap_bytes_inj, map_withoutBacktrace_eq_self_iff]
  · rw [ofFailure_remote, exception.injEq]
    simp [eq_comm]

/-- A lost update whose backtrace is lost as well. -/
theorem relay_forgets_backtrace :
    let e : Event := exception "my::LostUpdate" "counter reached 1" (some "0: my::worker")
    ((relay e.bytes).run .start).1.sink.written =
        (exception "my::LostUpdate" "counter reached 1" none).bytes ∧
      ((relay e.bytes).run .start).1.sink.written ≠ e.bytes := by
  intro e
  have hwritten : ((relay e.bytes).run .start).1.sink.written = e.withoutBacktrace.bytes := by
    simpa using written_relay [e] .start
  refine ⟨hwritten, fun h => ?_⟩
  have hsame : [e.withoutBacktrace] = [e] := flatMap_bytes_inj.1 (by simpa using hwritten.symm.trans h)
  exact absurd (List.singleton_inj.1 hsame) (by decide)

end Event

end Interleave
