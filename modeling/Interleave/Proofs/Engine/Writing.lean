import Mathlib.Data.List.Infix
import Interleave.Serve
import Interleave.Proofs.Engine.Reports

/-!
# Writing to an output that may fail

An observer cannot say that it failed, so a writer of events keeps the fault of the first write that is stopped, and
writes no more.

- `Sink.Takes`, `Sink.StopsAt`: an output takes lines whole, one behind the other, or stops at one of them; there is
  no third way (`Sink.takes_or_stopsAt`).
- So a writer ends in one of two ways (`EventWriter.foldl_write_of_takes`, `EventWriter.foldl_write_of_stopsAt`), and
  what is taken is always a front part of the lines (`Sink.StopsAt.flatten_isPrefix`).
- A served test that cannot be explored leaves the output as it was; of one that is explored, the only observation is
  written (`Explorer.serve_writes_without_gap`).
-/

namespace Interleave

/-- The line that is written for an observation in a session. -/
def Session.line (s : Session) (o : Observation) : List UInt8 := (Event.ofObservation s.backtraces o).bytes

/-- Sessions that have captured the same write the same. -/
theorem Session.Onward.line {s t : Session} (h : s.Onward t) (o : Observation) : t.line o = s.line o := by
  rw [Session.line, h.backtraces, Session.line]

/-! ## Outputs -/

namespace Sink

variable {s : Sink} {lines before : List (List UInt8)} {line : List UInt8} {stop : Stop}

/-- The output after lines that it took whole. -/
def after (s : Sink) (lines : List (List UInt8)) : Sink :=
  { s with tried := s.tried ++ lines, written := s.written ++ lines.flatten }

/-- The output after a line that it stopped. -/
def cutShort (s : Sink) (line : List UInt8) (stop : Stop) : Sink :=
  { s with tried := s.tried ++ [line], written := s.written ++ line.take stop.taken }

/-- The output takes lines whole, one behind the other. -/
def Takes (s : Sink) (lines : List (List UInt8)) : Prop :=
  ∀ before line, before ++ [line] <+: lines → s.stops (s.tried ++ before) line = none

/-- The output takes the lines in front of one of the lines, and stops at that one. -/
structure StopsAt (s : Sink) (lines before : List (List UInt8)) (line : List UInt8) (stop : Stop) : Prop where
  isPrefix : before ++ [line] <+: lines
  takes : s.Takes before
  stops : s.stops (s.tried ++ before) line = some stop

theorem write_of_none (h : s.stops s.tried line = none) : s.write line = (s.after [line], none) := by
  rw [write, h, after, List.flatten_singleton]

theorem write_of_some (h : s.stops s.tried line = some stop) :
    s.write line = (s.cutShort line stop, some stop.fault) := by
  rw [write, h, cutShort]

theorem after_nil (s : Sink) : s.after [] = s := by
  simp only [after, List.flatten_nil, List.append_nil]

theorem after_after (s : Sink) (lines lines' : List (List UInt8)) :
    (s.after lines).after lines' = s.after (lines ++ lines') := by
  simp only [after, List.flatten_append, List.append_assoc]

theorem takes_nil : s.Takes [] := by
  intro before line h
  exact absurd (List.prefix_nil.1 h) (by simp)

theorem takes_cons : s.Takes (line :: lines) ↔ s.stops s.tried line = none ∧ (s.after [line]).Takes lines := by
  constructor
  · intro h
    refine ⟨?_, fun before line' hbefore => ?_⟩
    · simpa using h [] line (List.prefix_append [line] lines)
    · have := h (line :: before) line' (List.cons_prefix_cons.2 ⟨rfl, hbefore⟩)
      simpa [after] using this
  · rintro ⟨hfirst, hrest⟩ (_ | ⟨first, before⟩) line' h
    · obtain rfl := (List.cons_prefix_cons.1 h).1
      simpa using hfirst
    · obtain ⟨rfl, hbefore⟩ := List.cons_prefix_cons.1 h
      simpa [after] using hrest before line' hbefore

theorem takes_singleton : s.Takes [line] ↔ s.stops s.tried line = none :=
  takes_cons.trans (and_iff_left takes_nil)

theorem StopsAt.not_takes (h : s.StopsAt lines before line stop) : ¬ s.Takes lines := by
  intro htakes
  have := htakes before line h.isPrefix
  rw [h.stops] at this
  cases this

/-- An output takes all lines or stops at one. -/
theorem takes_or_stopsAt (s : Sink) (lines : List (List UInt8)) :
    s.Takes lines ∨ ∃ before line stop, s.StopsAt lines before line stop := by
  induction lines generalizing s with
  | nil => exact Or.inl takes_nil
  | cons first lines ih =>
    cases hfirst : s.stops s.tried first with
    | some stop =>
      exact Or.inr ⟨[], first, stop, List.prefix_append [first] lines, takes_nil, by simpa using hfirst⟩
    | none =>
      rcases ih (s.after [first]) with h | ⟨before, line, stop, h⟩
      · exact Or.inl (takes_cons.2 ⟨hfirst, h⟩)
      · refine Or.inr ⟨first :: before, line, stop, List.cons_prefix_cons.2 ⟨rfl, h.isPrefix⟩,
          takes_cons.2 ⟨hfirst, h.takes⟩, ?_⟩
        simpa [after] using h.stops

/-- What an output has taken when it stops is a front part of all lines. -/
theorem StopsAt.flatten_isPrefix (h : s.StopsAt lines before line stop) :
    before.flatten ++ line.take stop.taken <+: lines.flatten := by
  have hline : before.flatten ++ line = (before ++ [line]).flatten := by
    rw [List.flatten_append, List.flatten_singleton]
  exact ((List.prefix_append_right_inj _).2 (List.take_prefix _ _)).trans (hline ▸ List.IsPrefix.flatten h.isPrefix)

end Sink

/-! ## Writers -/

namespace EventWriter

variable {sink : Sink} {es : List Event} {before : List (List UInt8)} {line : List UInt8} {stop : Stop}

/-- Writing an observation writes its event, and at most logs that it did. -/
theorem run_observe (w : EventWriter) (o : Observation) (s : Session) :
    ∃ log, (w.observe o).run s = (w.write (.ofObservation s.backtraces o), s.logged log) := by
  rw [observe, run_bind_get]
  dsimp only
  split
  · exact ⟨_, rfl⟩
  · exact ⟨[], by rw [Session.logged_nil]; rfl⟩

theorem run_foldlM_observe (w : EventWriter) (os : List Observation) (s : Session) :
    ((os.foldlM observe w).run s).1 = (os.map (Event.ofObservation s.backtraces)).foldl write w := by
  induction os generalizing w s with
  | nil => rfl
  | cons o os ih =>
    obtain ⟨log, hrun⟩ := w.run_observe o s
    rw [List.foldlM_cons, run_bind, ih, hrun]
    rfl

theorem write_of_none {e : Event} (h : sink.stops sink.tried e.bytes = none) :
    write { sink } e = { sink := sink.after [e.bytes] } := by
  simp only [write, Option.isSome_none, Bool.false_eq_true, if_false, Sink.write_of_none h]

/-- A writer keeps the fault of a write that is stopped. -/
theorem write_of_some {e : Event} (h : sink.stops sink.tried e.bytes = some stop) :
    write { sink } e = { sink := sink.cutShort e.bytes stop, fault := some stop.fault } := by
  simp only [write, Option.isSome_none, Bool.false_eq_true, if_false, Sink.write_of_some h]

/-- Behind a fault nothing is written. -/
theorem foldl_write_of_fault {w : EventWriter} (h : w.fault.isSome) (es : List Event) : es.foldl write w = w := by
  induction es with
  | nil => rfl
  | cons e es ih => rw [List.foldl_cons, write, if_pos h, ih]

theorem foldl_write_of_takes (h : sink.Takes (es.map Event.bytes)) :
    es.foldl write { sink } = { sink := sink.after (es.map Event.bytes) } := by
  induction es generalizing sink with
  | nil => rw [List.map_nil, Sink.after_nil]; rfl
  | cons e es ih =>
    obtain ⟨hfirst, hrest⟩ := Sink.takes_cons.1 h
    rw [List.foldl_cons, write_of_none hfirst, ih hrest, Sink.after_after]
    rfl

theorem foldl_write_of_stopsAt (h : sink.StopsAt (es.map Event.bytes) before line stop) :
    es.foldl write { sink } = { sink := (sink.after before).cutShort line stop, fault := some stop.fault } := by
  obtain ⟨rest, hrest⟩ := h.isPrefix
  -- the events in front of the line that is stopped, that event, and those behind it
  obtain ⟨front, back, rfl, hfront, -⟩ := List.map_eq_append_iff.1 hrest.symm
  obtain ⟨whole, last, rfl, rfl, hlast⟩ := List.map_eq_append_iff.1 hfront
  obtain ⟨e, rfl, rfl⟩ := List.map_eq_singleton_iff.1 hlast
  have hlast : write { sink := sink.after (whole.map Event.bytes) } e = _ := write_of_some h.stops
  rw [List.foldl_append, List.foldl_append, foldl_write_of_takes h.takes, List.foldl_cons, List.foldl_nil, hlast,
    foldl_write_of_fault rfl]

/-- An output that stops the second line, and would take the third. -/
example : ([.completed, .completed, .completed].foldl write { sink := {
    stops := fun tried _ => if tried.length = 1 then some ⟨3, .io "disk full"⟩ else none } }).sink.tried.length = 2 :=
  rfl

end EventWriter

/-! ## Serving -/

namespace Explorer

variable {σ : Type} {x : Explorer σ} {search : Option (Lifecycle σ) → Scheduling} {tokens : List String} {s : Session}

/-- An error of the explorer is the error of the child, which has written nothing then. -/
theorem run_serveUnder_of_failed {e : EngineError}
    (h : ((x.answerUnder search ⟨tokens⟩).run s).1 = .failed e) (sink : Sink) :
    ((serveUnder x search tokens sink).run s).1 = (sink, .error e) := by
  rw [serveUnder, run_bind, h]
  rfl

section Observed

variable {o : Observation} (h : ((x.answerUnder search ⟨tokens⟩).run s).1 = { observations := [o] }) {sink : Sink}

include h

/-- The fault of a write that is stopped is the error of the child. -/
theorem run_serveUnder_of_stops {stop : Stop} (hstop : sink.stops sink.tried (s.line o) = some stop) :
    ((serveUnder x search tokens sink).run s).1 = (sink.cutShort (s.line o) stop, .error (.io stop.fault)) := by
  rw [← (x.onward_answerUnder search ⟨tokens⟩ s).1.line] at hstop ⊢
  rw [serveUnder, run_bind, h, run_bind, EventWriter.run_foldlM_observe, List.map_singleton, List.foldl_cons,
    List.foldl_nil, EventWriter.write_of_some hstop]
  rfl

/-- Behind a line that is taken whole, only the flush can fail. -/
theorem run_serveUnder_of_takes (htakes : sink.stops sink.tried (s.line o) = none) :
    ((serveUnder x search tokens sink).run s).1 =
      (sink.after [s.line o], (sink.flush.map fun f => Except.error (.io f)).getD (.ok ())) := by
  rw [← (x.onward_answerUnder search ⟨tokens⟩ s).1.line] at htakes ⊢
  rw [serveUnder, run_bind, h, run_bind, EventWriter.run_foldlM_observe, List.map_singleton, List.foldl_cons,
    List.foldl_nil, EventWriter.write_of_none htakes]
  obtain ⟨_, _ | f, _, _⟩ := sink <;> rfl

end Observed

/-- **No gap and no silence.** Whatever observations a writer is given, and wherever its output stops a write: all
lines are taken whole, or those up to one that is stopped, of which a part may be taken; of the lines behind that one,
nothing reaches the output, even if it would take it. So the bytes that are taken are a front part of all bytes, and
there is a fault exactly if a write was stopped: that of the first one. If a test cannot be explored, serving it ends
with that error and leaves the output as it was. If it is explored, serving it succeeds exactly if the whole line of
the observation is taken and the output is flushed, and ends with the fault of the write or of the flush if not. -/
theorem serve_writes_without_gap (x : Explorer σ) (search : Option (Lifecycle σ) → Scheduling) (tokens : List String)
    (sink : Sink) (s : Session) :
    (∀ (os : List Observation) (t : Session),
      let w := ((os.foldlM EventWriter.observe { sink }).run t).1
      let lines := os.map t.line
      (∃ taken, w.sink.written = sink.written ++ taken ∧ taken <+: lines.flatten) ∧
      (w.fault = none ↔ sink.Takes lines) ∧
      (sink.Takes lines → w.sink = sink.after lines) ∧
      ∀ f, w.fault = some f ↔ ∃ before line stop, sink.StopsAt lines before line stop ∧
        w.sink = (sink.after before).cutShort line stop ∧ f = stop.fault) ∧
    let answer := ((x.answerUnder search ⟨tokens⟩).run s).1
    let served := ((serveUnder x search tokens sink).run s).1
    (∃ e, answer = .failed e ∧ served = (sink, .error e)) ∨
    ∃ o, answer = { observations := [o] } ∧
      (served.2 = .ok () ↔ sink.Takes [s.line o] ∧ sink.flush = none) ∧
      (∀ stop, sink.stops sink.tried (s.line o) = some stop →
        served = (sink.cutShort (s.line o) stop, .error (.io stop.fault))) ∧
      (sink.Takes [s.line o] → served.1 = sink.after [s.line o] ∧
        ∀ f, sink.flush = some f → served.2 = .error (.io f)) := by
  refine ⟨fun os t => ?_, ?_⟩
  · intro w lines
    have hlines : lines = (os.map (Event.ofObservation t.backtraces)).map Event.bytes := List.map_map.symm
    have hw : w = (os.map (Event.ofObservation t.backtraces)).foldl EventWriter.write { sink } :=
      EventWriter.run_foldlM_observe _ _ _
    have hstops {before line stop} (h : sink.StopsAt lines before line stop) :
        w = { sink := (sink.after before).cutShort line stop, fault := some stop.fault } :=
      hw.trans (EventWriter.foldl_write_of_stopsAt (hlines ▸ h))
    rcases sink.takes_or_stopsAt lines with h | ⟨before, line, stop, h⟩
    · have hwhole : w = { sink := sink.after lines } := by
        rw [hw, EventWriter.foldl_write_of_takes (hlines ▸ h), hlines]
      refine ⟨⟨lines.flatten, by rw [hwhole]; rfl, List.prefix_refl _⟩, iff_of_true (by rw [hwhole]) h,
        fun _ => by rw [hwhole], fun f => iff_of_false (by simp [hwhole]) ?_⟩
      rintro ⟨_, _, _, h', -, -⟩
      exact h'.not_takes h
    · refine ⟨⟨before.flatten ++ line.take stop.taken, ?_, h.flatten_isPrefix⟩,
        iff_of_false (by simp [hstops h]) h.not_takes, fun h' => absurd h' h.not_takes, fun f => ⟨fun hf => ?_, ?_⟩⟩
      · rw [hstops h, ← List.append_assoc]
        rfl
      · rw [hstops h] at hf
        cases hf
        exact ⟨before, line, stop, h, by rw [hstops h], rfl⟩
      · rintro ⟨_, _, _, h', -, rfl⟩
        rw [hstops h']
  · intro answer served
    rcases x.cases_answer search ⟨tokens⟩ s with ⟨e, hfailed⟩ | ⟨-, -, -, -, ended, u, -, -, -, -, hobserved, -⟩
    · exact Or.inl ⟨e, hfailed, run_serveUnder_of_failed hfailed sink⟩
    · refine Or.inr ⟨_, hobserved, ?_, fun stop hstop => run_serveUnder_of_stops hobserved hstop, fun htakes => ?_⟩
      · cases hstop : sink.stops sink.tried (s.line (ended.observation u.nextFailure)) with
        | none =>
          have hserved : served = _ := run_serveUnder_of_takes hobserved hstop
          rw [hserved, Sink.takes_singleton]
          cases sink.flush <;> simp [hstop]
        | some stop =>
          have hserved : served = _ := run_serveUnder_of_stops hobserved hstop
          rw [hserved, Sink.takes_singleton]
          simp [hstop]
      · have hserved : served = _ := run_serveUnder_of_takes hobserved (Sink.takes_singleton.1 htakes)
        rw [hserved]
        exact ⟨rfl, fun f hf => by rw [hf]; rfl⟩

end Explorer

end Interleave
