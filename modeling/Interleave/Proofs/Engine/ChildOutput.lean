import Interleave.Engine.Child
import Interleave.Proofs.Event.Truncation
import Interleave.Proofs.Invocation.Priming

/-!
# What is read of the output of a child

A child writes lines, of which each is blank, holds an event, or is not understood.

- `Event.Understood`: lines with the events on them; `Event.Stops`: what is left of an output where its reading stops,
  and with which error. An output is understood up to where it stops, and there it is read no further
  (`Event.exists_understood`, `Event.Understood.ofLines_append`).
- The events are observed in order, and the child's status matters only if there are none and nothing is wrong with its
  lines (`ChildEngine.endOf`, `ChildEngine.exists_run_engine`).
- An invocation has a verdict only if all lines are understood, and its result is the same whatever the status, if
  there is an event (`ChildEngine.run_reads_output`).
-/

namespace Interleave

open Text Session

/-! ## Lines -/

namespace Event

/-- The line is text, with nothing on it but blanks. -/
def Blank (line : List UInt8) : Prop := ∃ text, decode line = some text ∧ trim text.toList = []

/-- The line is text, and what is between the blanks at its ends is the event. -/
def OnLine (e : Event) (line : List UInt8) : Prop :=
  ∃ text, decode line = some text ∧ trim text.toList ≠ [] ∧ read (String.ofList (trim text.toList)) = .ok e

/-- Lines that are blank or hold events, and these events in order. -/
inductive Understood : List (List UInt8) → List Event → Prop
  | nil : Understood [] []
  | blank {line : List UInt8} {lines : List (List UInt8)} {es : List Event} (h : Blank line)
      (hrest : Understood lines es) : Understood (line :: lines) es
  | event {line : List UInt8} {lines : List (List UInt8)} {e : Event} {es : List Event} (h : e.OnLine line)
      (hrest : Understood lines es) : Understood (line :: lines) (e :: es)

/-- Lines at which the reading stops: there are none left, or the first one is not text, or is neither blank nor an
event; an error says so, and carries what is between the blanks. -/
inductive Stops : List (List UInt8) → Option EngineError → Prop
  | complete : Stops [] none
  | notText {line : List UInt8} (lines : List (List UInt8)) (h : decode line = none) :
      Stops (line :: lines) (some (.io (.io "stream did not contain valid UTF-8")))
  | malformed {line : List UInt8} {text : String} {cause : Json.ReadError} (lines : List (List UInt8))
      (h : decode line = some text) (hne : trim text.toList ≠ [])
      (hread : read (String.ofList (trim text.toList)) = .error cause) :
      Stops (line :: lines) (some (.malformedEvent (String.ofList (trim text.toList)) cause))

theorem ofLines_cons_of_blank {line : List UInt8} (h : Blank line) (lines : List (List UInt8)) :
    ofLines (line :: lines) = ofLines lines := by
  obtain ⟨text, hdecode, htrim⟩ := h
  simp only [ofLines, hdecode, htrim, List.isEmpty_nil, if_true]

theorem ofLines_cons_of_onLine {e : Event} {line : List UInt8} (h : e.OnLine line) (lines : List (List UInt8)) :
    ofLines (line :: lines) = (e :: (ofLines lines).1, (ofLines lines).2) := by
  obtain ⟨text, hdecode, htrim, hread⟩ := h
  simp only [ofLines, hdecode, List.isEmpty_iff, htrim, if_false, hread]

/-- What is understood is read, and then what is behind it. -/
theorem Understood.ofLines_append {lines : List (List UInt8)} {es : List Event} (h : Understood lines es)
    (rest : List (List UInt8)) : ofLines (lines ++ rest) = (es ++ (ofLines rest).1, (ofLines rest).2) := by
  induction h with
  | nil => rfl
  | blank h _ ih => rw [List.cons_append, ofLines_cons_of_blank h, ih]
  | event h _ ih => rw [List.cons_append, ofLines_cons_of_onLine h, ih, List.cons_append]

/-- Lines are understood up to where the reading stops, and their events are read. -/
theorem exists_understood (lines : List (List UInt8)) : ∃ understood rest, lines = understood ++ rest ∧
    Understood understood (ofLines lines).1 ∧ Stops rest (ofLines lines).2.error? := by
  induction lines with
  | nil => exact ⟨[], [], rfl, .nil, .complete⟩
  | cons line lines ih =>
    obtain ⟨understood, rest, rfl, hes, hrest⟩ := ih
    cases hdecode : decode line with
    | none =>
      refine ⟨[], line :: (understood ++ rest), rfl, ?_⟩
      simp only [ofLines, hdecode]
      exact ⟨.nil, .notText _ hdecode⟩
    | some text =>
      by_cases htrim : trim text.toList = []
      · have hblank : Blank line := ⟨text, hdecode, htrim⟩
        rw [ofLines_cons_of_blank hblank]
        exact ⟨line :: understood, rest, rfl, .blank hblank hes, hrest⟩
      · cases hread : read (String.ofList (trim text.toList)) with
        | ok e =>
          have honLine : e.OnLine line := ⟨text, hdecode, htrim, hread⟩
          rw [ofLines_cons_of_onLine honLine]
          exact ⟨line :: understood, rest, rfl, .event honLine hes, hrest⟩
        | error cause =>
          refine ⟨[], line :: (understood ++ rest), rfl, ?_⟩
          simp only [ofLines, hdecode, List.isEmpty_iff, htrim, if_false, hread]
          exact ⟨.nil, .malformed _ hdecode htrim hread⟩

/-- The lines of an output are understood up to where its reading stops. -/
theorem exists_understood_of_read {bytes : List UInt8} {events : List Event} {ending : StreamEnd}
    (h : ofBytes bytes = (events, ending)) : ∃ understood rest, lines bytes = understood ++ rest ∧
      Understood understood events ∧ Stops rest ending.error? := by
  have hlines := exists_understood (lines bytes)
  rw [← ofBytes, h] at hlines
  exact hlines

/-- A line of blanks, an event with blanks behind it, and a line that is neither. -/
example : (ofBytes (encode " \n\x7b\"event\":\"completed\"\x7d \r\n?\n")).1 = [.completed] := by cbv

/-- Nothing stops the reading of the lines exactly if there are none left. -/
theorem Stops.eq_none_iff {lines : List (List UInt8)} {error : Option EngineError} (h : Stops lines error) :
    error = none ↔ lines = [] := by
  cases h <;> simp

/-- An event is observed along with itself in sessions that are abreast. -/
theorem along_observation {ps : List Nat} {a b : Nat} {ds : List Delivery} (e : Event) :
    Along ps a b ds ds (Observation.Moved a b) e.observation e.observation := by
  cases e with
  | exception t m bt => exact (along_raiseDraft _).bind fun _ _ h => along_pure (.thrown h)
  | completed => exact along_pure (.same _)
  | violation d => exact along_pure (.same _)

/-- So are events in a row. -/
theorem along_observations (es : List Event) {ps : List Nat} {a b : Nat} {ds : List Delivery} :
    Along ps a b ds ds (List.Forall₂ (Observation.Moved a b)) (es.mapM observation) (es.mapM observation) :=
  along_mapM along_observation

end Event

/-! ## Children -/

namespace ChildEngine

/-- How a run of a child ends: with the error at which the reading stopped or, if the child has written nothing but
blanks and ended badly, with its status. -/
def endOf (events : List Event) (status : ExitStatus) : Option EngineError → EngineEnd
  | some e => .failed e
  | none => if events = [] ∧ status.isSuccess = false then .failed (.exited status.text) else .done

section Child

variable {x : ChildEngine} {p : Payload} {written : List UInt8} {events : List Event} {ending : StreamEnd}
  (hread : Event.ofBytes written = (events, ending)) (status : ExitStatus)
include hread

/-- The answer of a child observes the events that are read of its output, in order. -/
theorem exists_run_answerOf (s : Session) : ∃ closing, (answerOf ⟨written, status⟩).run s =
    ({ observations := ((events.mapM Event.observation).run s).1, closing,
       ending := endOf events status ending.error? }, ((events.mapM Event.observation).run s).2) := by
  rw [answerOf]
  simp only [hread]
  rw [run_bind]
  cases herror : ending.error? with
  | some e => exact ⟨[], rfl⟩
  | none =>
    have hsilent : (events.isEmpty && !status.isSuccess) = true ↔ events = [] ∧ status.isSuccess = false := by simp
    dsimp only
    by_cases h : events = [] ∧ status.isSuccess = false
    · refine ⟨[], ?_⟩
      rw [if_pos (hsilent.2 h), endOf, if_pos h, h.1]
      rfl
    · refine ⟨closing events.length status, ?_⟩
      rw [if_neg (mt hsilent.1 h), endOf, if_neg h]
      rfl

variable {status} (hspawn : x.spawn p = .ok ⟨written, status⟩) (id : Nat) (s : Session)
include hspawn

/-- A child that has been started replies with the events that are read of its output. -/
theorem exists_reply : ∃ observations closing t, List.Forall₂ Event.Reports events observations ∧
    (x.engine id).reply p s = ({ observations, closing, ending := endOf events status ending.error? }, t) := by
  let sent : Session := { s with deliveries := s.deliveries ++ [⟨id, p.tokens⟩] }
  let told := sent.logged [{ level := .debug, name := "spawning checking engine",
                             fields := [("program", quoted x.name), ("payload", p.text)] }]
  have hreply : (x.engine id).reply p s = (answerOf ⟨written, status⟩).run told := by
    show (x.answer p).run sent = _
    rw [answer, run_bind, run_event, hspawn]
  obtain ⟨closing, hrun⟩ := exists_run_answerOf hread status told
  exact ⟨_, closing, _, Event.forall₂_reports_mapM events told, hreply.trans hrun⟩

/-- What whoever follows a child is told, and how the run ends. -/
theorem exists_run_engine : ∃ observations t, List.Forall₂ Event.Reports events observations ∧
    ∀ {ω : Type} (observe : ω → Observation → Quiet ω) (start : ω),
      (((x.engine id).run observe start p).run s).1 =
        (((observations.foldlM observe start).run t).1, endOf events status ending.error?) := by
  obtain ⟨observations, closing, t, hreports, hreply⟩ := exists_reply hread hspawn id s
  refine ⟨observations, t, hreports, fun observe start => ?_⟩
  rw [Engine.run_eq, hreply, run_bind, run_bind]
  rfl

end Child

/-- A child that is heard to the end and observes anything has been started, and all of its lines are understood. -/
theorem exists_understood_of_reply {x : ChildEngine} {p : Payload} {id : Nat} {s t : Session} {r : Answer}
    (hreply : (x.engine id).reply p s = (r, t)) (hdone : r.ending = .done) (hobservations : r.observations ≠ []) :
    ∃ output events, x.spawn p = .ok output ∧ Event.Understood (lines output.written) events ∧ events ≠ [] := by
  cases hspawn : x.spawn p with
  | error e =>
    have hfailed : ((x.engine id).reply p s).1 = .failed (.spawn x.name (.io e.message)) := by
      show ((x.answer p).run _).1 = _
      rw [answer, run_bind, run_event, hspawn]
      rfl
    rw [hreply] at hfailed
    rw [show r = _ from hfailed] at hdone
    cases hdone
  | ok output =>
    obtain ⟨written, status⟩ := output
    rcases hread : Event.ofBytes written with ⟨events, ending⟩
    obtain ⟨understood, rest, hlines, hunderstood, hrest⟩ := Event.exists_understood_of_read hread
    obtain ⟨observations, closing, u, hreports, hreply'⟩ := exists_reply hread hspawn id s
    rw [hreply] at hreply'
    cases hreply'
    have hcomplete : ending.error? = none := by
      cases herror : ending.error? with
      | none => rfl
      | some e =>
        rw [herror] at hdone
        cases hdone
    rw [hrest.eq_none_iff.1 hcomplete, List.append_nil] at hlines
    refine ⟨⟨written, status⟩, events, rfl, hlines ▸ hunderstood, ?_⟩
    rintro rfl
    cases hreports
    exact hobservations rfl

/-! ## Children that end otherwise -/

/-- The engine whose program writes the same, but ends with other statuses. -/
def endingWith (x : ChildEngine) (status : List String → ExitStatus) : ChildEngine :=
  { x with program := fun arguments =>
      (x.program arguments).map fun output => { output with status := status arguments } }

theorem spawn_endingWith (x : ChildEngine) (status : List String → ExitStatus) (p : Payload) :
    (x.endingWith status).spawn p =
      (x.spawn p).map fun output => { output with status := status (x.arguments p) } := by
  rw [spawn, spawn]
  show (if (x.arguments p).any _ then _ else _) = _
  split <;> rfl

section Along

variable {ps : List Nat} {a b : Nat} {ds : List Delivery}

/-- The status of a child whose output holds an event makes no difference to its answer. -/
theorem along_answerOf (output : ProcessOutput) (status : ExitStatus) : Along ps a b ds ds
    (fun r r' => List.Forall₂ (Observation.Moved a b) r.observations r'.observations ∧
      ((Event.ofBytes output.written).1 ≠ [] → r.ending = r'.ending))
    (answerOf output) (answerOf { output with status }) := by
  intro s s' hs
  obtain ⟨written, status'⟩ := output
  rcases hread : Event.ofBytes written with ⟨events, ending⟩
  obtain ⟨closing, hrun⟩ := exists_run_answerOf hread status' s
  obtain ⟨closing', hrun'⟩ := exists_run_answerOf hread status s'
  obtain ⟨hobservations, ht⟩ := Event.along_observations events s s' hs
  rw [hrun, hrun']
  refine ⟨⟨hobservations, fun hevents => ?_⟩, ht⟩
  cases ending.error? with
  | some e => rfl
  | none =>
    dsimp only
    rw [endOf, endOf, if_neg (fun h => hevents h.1), if_neg (fun h => hevents h.1)]

/-- Children that write the same answer alike, if there is an event in what they write. -/
theorem along_answer (x : ChildEngine) (status : List String → ExitStatus) (p : Payload) : Along ps a b ds ds
    (fun r r' => List.Forall₂ (Observation.Moved a b) r.observations r'.observations ∧
      ∀ output, x.spawn p = .ok output → (Event.ofBytes output.written).1 ≠ [] → r.ending = r'.ending)
    (x.answer p) ((x.endingWith status).answer p) := by
  refine (along_event _ _ _).bind fun _ _ _ => ?_
  rw [spawn_endingWith]
  cases hspawn : x.spawn p with
  | error e => exact along_pure ⟨.nil, nofun⟩
  | ok output =>
    intro s s' hs
    obtain ⟨⟨hobservations, hending⟩, ht⟩ := along_answerOf output (status (x.arguments p)) s s' hs
    refine ⟨⟨hobservations, ?_⟩, ht⟩
    rintro _ ⟨⟩
    exact hending

end Along

end ChildEngine

/-! ## Invocations -/

/-- An answer means that the test passed or failed only if the engine ended well and has observed something. -/
theorem Answer.observed_of_outcome {r : Answer} {id : Nat}
    (h : r.outcome id = .ok (.ok ()) ∨ ∃ f, r.outcome id = .ok (.error (.testFailed f))) :
    r.ending = .done ∧ r.observations ≠ [] := by
  rcases h with hpass | ⟨f, hfail⟩
  · obtain ⟨hdone, hobservations, -⟩ := r.outcome_eq_ok_iff id |>.1 hpass
    exact ⟨hdone, hobservations⟩
  · obtain ⟨hdone, hcause⟩ := r.outcome_eq_testFailed_iff id |>.1 hfail
    refine ⟨hdone, ?_⟩
    intro hnil
    rw [hnil] at hcause
    rcases hcause with hcause | ⟨-, _, hcause, -⟩ <;> cases hcause

/-- A payload that is sent has been built, and would have been in any other session. -/
theorem Invocation.exists_of_reply_eq_ok {σ : Type} {i : Invocation} {c : TestClass σ} {test : Descriptor}
    {befores afters : List Descriptor} {expected : Option Expectation} {s t : Session} {r : Answer}
    (h : i.reply c test befores afters expected s = .ok (r, t)) :
    ∃ p u, ((Payload.build c test befores afters expected).run s).1 = .ok p ∧ i.engine.reply p u = (r, t) := by
  rw [reply, Payload.run_build] at h
  cases hv : c.validate test befores afters with
  | error e =>
    rw [hv] at h
    cases h
  | ok _ =>
    rw [hv] at h
    exact ⟨_, _, Payload.run_build_eq_ok_iff.2 ⟨hv, rfl⟩, Except.ok.inj h⟩

namespace ChildEngine

variable (x : ChildEngine) (id : Nat) (primer : Primer) {σ : Type} (c : TestClass σ) (test : Descriptor)
  (befores afters : List Descriptor) (expected : Option Expectation) (s : Session)

/-- What an invocation ends with whose engine runs the child. -/
def invoked : Except Panic Invoked :=
  ((catching (Invocation.run ⟨x.engine id, primer⟩ c test befores afters expected)).run s).1

variable {c test befores afters expected s}

/-- An invocation finds out whether the test passes only if all lines of the child are understood and one of them holds
an event. -/
theorem exists_understood_of_invoked (h : x.invoked id primer c test befores afters expected s = .ok (.ok ()) ∨
      ∃ f, x.invoked id primer c test befores afters expected s = .ok (.error (.testFailed f))) :
    ∃ p output events, ((Payload.build c test befores afters expected).run s).1 = .ok p ∧
      x.spawn p = .ok output ∧ Event.Understood (lines output.written) events ∧ events ≠ [] := by
  let i : Invocation := ⟨x.engine id, primer⟩
  rw [invoked] at h
  rcases hreply : i.reply c test befores afters expected s with e | ⟨r, t⟩
  · rw [i.run_of_reply_eq_error c test befores afters expected hreply] at h
    rcases h with h | ⟨f, h⟩ <;> cases h
  · obtain ⟨n, hrun⟩ := i.run_of_reply_eq_ok c test befores afters expected hreply
    rw [hrun] at h
    obtain ⟨hdone, hobservations⟩ := Answer.observed_of_outcome h
    obtain ⟨p, u, hp, hengine⟩ := Invocation.exists_of_reply_eq_ok hreply
    obtain ⟨output, events, hspawn, hunderstood, hevents⟩ := exists_understood_of_reply hengine hdone hobservations
    exact ⟨p, output, events, hp, hspawn, hunderstood, hevents⟩

/-- If a child reports an event, its status makes no difference to an invocation. -/
theorem invoked_endingWith {p : Payload} {output : ProcessOutput}
    (hp : ((Payload.build c test befores afters expected).run s).1 = .ok p) (hspawn : x.spawn p = .ok output)
    (hevents : (Event.ofBytes output.written).1 ≠ []) (status : List String → ExitStatus) :
    (x.endingWith status).invoked id primer c test befores afters expected s =
      x.invoked id primer c test befores afters expected s := by
  let i : Invocation := ⟨x.engine id, primer⟩
  let i' : Invocation := ⟨(x.endingWith status).engine id, primer⟩
  have hid : i.engine.id = i'.engine.id := rfl
  -- a warm-up may end in two ways, too, but no identity is given away in one that is not in the other
  let n := s.nextFailure
  have hs : Abreast s.primed n n s.deliveries s s := ⟨rfl, rfl, rfl, rfl, 0, rfl, rfl⟩
  obtain ⟨ps, ds, hprepared⟩ : ∃ ps ds, Abreast ps n n ds (i.prepared test s) (i'.prepared test s) :=
    primer.abreast_prime hid (fun _ _ => x.along_answer status .warmUp) (hs.logged _ _)
  refine (Invocation.Moved.eq (a := n) (Call.abreast_run i i' c test befores afters expected ?_ hprepared).1).symm
  intro payload ds
  have hpayload : p = payload := (Payload.run_build_eq_ok_iff.1 hp).2
  refine Engine.along_run hid fun es earlier s s' hs => ?_
  obtain ⟨⟨hobservations, hending⟩, ht⟩ := x.along_answer status payload s s' hs
  exact ⟨⟨hobservations, hending output (hpayload ▸ hspawn) hevents⟩, ht⟩

/-- **What a child writes decides.** Whoever follows a child that has been started is told the events on its lines, in
order, up to the first line that is not understood; that line is an error, whatever came before it and however the child
ended. If there is none, the run ends in an error exactly if there was no event and the status is bad.

So an invocation finds out whether the test passes only if all lines are understood and one of them holds an event; and
once there is an event, its result is the same whatever the status. -/
theorem run_reads_output (x : ChildEngine) (id : Nat) (primer : Primer) {σ : Type} (c : TestClass σ)
    (test : Descriptor) (befores afters : List Descriptor) (expected : Option Expectation) (s : Session) :
    (∀ p output, x.spawn p = .ok output → ∃ understood rest events error observations t,
      lines output.written = understood ++ rest ∧ Event.Understood understood events ∧ Event.Stops rest error ∧
      List.Forall₂ Event.Reports events observations ∧
      ∀ {ω : Type} (observe : ω → Observation → Quiet ω) (start : ω),
        (((x.engine id).run observe start p).run s).1 =
          (((observations.foldlM observe start).run t).1, endOf events output.status error)) ∧
    (x.invoked id primer c test befores afters expected s = .ok (.ok ()) ∨
      (∃ f, x.invoked id primer c test befores afters expected s = .ok (.error (.testFailed f))) →
      ∃ p output events, ((Payload.build c test befores afters expected).run s).1 = .ok p ∧
        x.spawn p = .ok output ∧ Event.Understood (lines output.written) events ∧ events ≠ []) ∧
    (∀ p output understood rest events, ((Payload.build c test befores afters expected).run s).1 = .ok p →
      x.spawn p = .ok output → lines output.written = understood ++ rest → Event.Understood understood events →
      events ≠ [] → ∀ status : List String → ExitStatus,
        (x.endingWith status).invoked id primer c test befores afters expected s =
          x.invoked id primer c test befores afters expected s) := by
  refine ⟨?_, x.exists_understood_of_invoked id primer, ?_⟩
  · rintro p ⟨written, status⟩ hspawn
    rcases hread : Event.ofBytes written with ⟨events, ending⟩
    obtain ⟨understood, rest, hlines, hunderstood, hrest⟩ := Event.exists_understood_of_read hread
    obtain ⟨observations, t, hreports, hrun⟩ := exists_run_engine hread hspawn id s
    exact ⟨understood, rest, events, _, observations, t, hlines, hunderstood, hrest, hreports, hrun⟩
  · intro p output understood rest events hp hspawn hlines hunderstood hevents status
    refine x.invoked_endingWith id primer hp hspawn ?_ status
    rw [Event.ofBytes, hlines, hunderstood.ofLines_append]
    exact List.append_ne_nil_of_left_ne_nil hevents _

end ChildEngine

end Interleave
