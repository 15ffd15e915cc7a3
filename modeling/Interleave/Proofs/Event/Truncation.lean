import Interleave.Proofs.Event.RoundTrip
import Interleave.Proofs.Session.Actions
import Interleave.Proofs.Text.Bytes

/-!
# Streams of events that were cut off

- A line that holds the text of an event is read as that event, and the reading goes on behind it
  (`ofBytes_bytes_append`); at the end of a stream the line need not be closed (`ofBytes_encode_text`).
- A line that was cut off inside the text is no event, and the reading ends in an error (`ofBytes_of_cutOff`).
- So whoever observes a stream that was cut off anywhere learns of the events whose text came through whole, with all
  their fields, and of an error exactly if the cut was inside a text (`ofBytes_take`).
-/

namespace Interleave

theorem StreamEnd.error?_eq_none_iff {ending : StreamEnd} : ending.error? = none ↔ ending = .complete := by
  cases ending <;> simp [StreamEnd.error?]

namespace Event

open Text

/-! ## Lines -/

theorem bytes_eq (e : Event) : e.bytes = encode e.text ++ [10] := by
  rw [bytes, encode_append]
  congr 1
  rw [encode_eq]
  decide

theorem newline_notMem_encode_text (e : Event) : (10 : UInt8) ∉ encode e.text := by
  apply newline_notMem_encode
  rw [text, String.toList_ofList]
  exact e.newline_notMem_chars

theorem encode_text_ne_nil (e : Event) : encode e.text ≠ [] := by
  intro h
  have hnil : e.chars = [] := by
    have hdecode := decode_encode e.text
    rw [h] at hdecode
    have htext : e.text = "" := (Option.some.inj hdecode).symm
    rw [← String.toList_ofList (l := e.chars), ← text, htext]
    rfl
  obtain ⟨cs, hcs⟩ := e.exists_chars_eq
  rw [hcs] at hnil
  cases hnil

/-- A line that holds an event is read. -/
theorem ofLines_encode_text (e : Event) (rest : List (List UInt8)) :
    ofLines (encode e.text :: rest) = (e :: (ofLines rest).1, (ofLines rest).2) := by
  have htrim : trim e.text.toList = e.chars := by
    rw [text, String.toList_ofList, trim_chars]
  have hne : e.chars.isEmpty = false := by
    obtain ⟨cs, hcs⟩ := e.exists_chars_eq
    rw [hcs]
    rfl
  have hread : read (String.ofList e.chars) = .ok e := e.read_text
  rw [ofLines, decode_encode]
  simp only [htrim, hne, Bool.false_eq_true, if_false, hread]

/-- A closed line with an event is read, and then what is behind it. -/
theorem ofBytes_bytes_append (e : Event) (rest : List UInt8) :
    ofBytes (e.bytes ++ rest) = (e :: (ofBytes rest).1, (ofBytes rest).2) := by
  rw [bytes_eq, List.append_assoc, List.singleton_append, ofBytes, lines_append e.newline_notMem_encode_text,
    ofLines_encode_text]
  rfl

/-- An event at the end of a stream is read though its line is not closed. -/
theorem ofBytes_encode_text (e : Event) : ofBytes (encode e.text) = ([e], .complete) := by
  rw [ofBytes, lines_eq_singleton e.newline_notMem_encode_text e.encode_text_ne_nil, ofLines_encode_text]
  rfl

/-- What is left of a text that was cut off, when it is trimmed, is the text cut off, and is not empty: the text begins
with a brace. -/
theorem cutOff_trim {e : Event} {q : List Char} (h : CutOff q e.chars) (hne : q ≠ []) :
    CutOff (trim q) e.chars ∧ trim q ≠ [] := by
  obtain ⟨cs, hcs⟩ := e.exists_chars_eq
  have hfront := h.1
  rw [hcs] at hfront
  rcases List.prefix_cons_iff.1 hfront with hnil | ⟨ds, rfl, -⟩
  · exact absurd hnil hne
  · obtain ⟨ds', htrim, hds'⟩ := exists_trim_cons (x := '\x7b') (by decide) ds
    rw [htrim]
    exact ⟨h.of_isPrefix (List.cons_prefix_cons.2 ⟨rfl, hds'⟩), List.cons_ne_nil _ _⟩

/-- No event is read from the text of an event that was cut off, but an error. -/
theorem ofBytes_of_cutOff {e : Event} {part : List UInt8} (hcut : CutOff part (encode e.text)) (hne : part ≠ []) :
    (ofBytes part).1 = [] ∧ (ofBytes part).2 ≠ .complete := by
  have hline : (10 : UInt8) ∉ part := fun h => e.newline_notMem_encode_text (hcut.1.subset h)
  rw [ofBytes, lines_eq_singleton hline hne, ofLines]
  cases hdecode : decode part with
  | none => simp
  | some line =>
    obtain ⟨hp, hlt⟩ := exists_of_decode_front hcut.1 hcut.2 hdecode
    have hline_cut : CutOff line.toList e.chars := by
      rw [text, String.toList_ofList] at hp
      refine ⟨hp, fun heq => hlt ?_⟩
      rw [text, ← heq, String.ofList_toList]
    have hline_ne : line.toList ≠ [] := by
      intro hnil
      apply hne
      rw [← encode_of_decode hdecode, encode_eq, hnil]
      rfl
    obtain ⟨hcut', hne'⟩ := cutOff_trim hline_cut hline_ne
    obtain ⟨cause, hread⟩ := read_of_cutOff hcut' hne'
    have hempty : (trim line.toList).isEmpty = false := by simpa using hne'
    simp only [hempty, Bool.false_eq_true, if_false, hread]
    simp

/-- Closed lines with events are read, and then what is behind them. -/
theorem ofBytes_flatMap_append (es : List Event) (rest : List UInt8) :
    ofBytes (es.flatMap bytes ++ rest) = (es ++ (ofBytes rest).1, (ofBytes rest).2) := by
  induction es with
  | nil => rfl
  | cons e es ih => rw [List.flatMap_cons, List.append_assoc, ofBytes_bytes_append, ih, List.cons_append]

/-! ## Cuts -/

/-- A stream of events that was cut off, the events of which the whole text is left, and whether the cut was inside a
text. -/
inductive Cut : List Event → List UInt8 → List Event → Bool → Prop
  | atStart (es : List Event) : Cut es [] [] false
  | inside {e : Event} {part : List UInt8} (es : List Event) (hne : part ≠ [])
      (hcut : CutOff part (encode e.text)) : Cut (e :: es) part [] true
  | behindText (e : Event) (es : List Event) : Cut (e :: es) (encode e.text) [e] false
  | behindLine {es : List Event} {p : List UInt8} {whole : List Event} {inside : Bool} (e : Event)
      (h : Cut es p whole inside) : Cut (e :: es) (e.bytes ++ p) (e :: whole) inside

/-- A part of a line with an event ends in front of the text, inside of it or behind it. -/
theorem cases_of_cutOff_bytes {e : Event} {p : List UInt8} (h : CutOff p e.bytes) :
    p = [] ∨ (p ≠ [] ∧ CutOff p (encode e.text)) ∨ p = encode e.text := by
  rw [bytes_eq, cutOff_append_iff] at h
  rcases h with h | ⟨q, rfl, h⟩
  · by_cases hp : p = []
    · exact Or.inl hp
    · exact Or.inr (Or.inl ⟨hp, h⟩)
  · rw [cutOff_singleton_iff.1 h, List.append_nil]
    exact Or.inr (Or.inr rfl)

/-- Wherever a stream of events is cut off, some of the events are whole and the cut is inside a text or not. -/
theorem exists_cut {es : List Event} {p : List UInt8} (h : p <+: es.flatMap bytes) :
    ∃ whole inside, Cut es p whole inside := by
  induction es generalizing p with
  | nil =>
    obtain rfl : p = [] := List.prefix_nil.1 h
    exact ⟨_, _, .atStart []⟩
  | cons e es ih =>
    rw [List.flatMap_cons] at h
    have hline : ∀ q, q <+: es.flatMap bytes → ∃ whole inside, Cut (e :: es) (e.bytes ++ q) whole inside := by
      intro q hq
      obtain ⟨whole, inside, hcut⟩ := ih hq
      exact ⟨_, _, .behindLine e hcut⟩
    rcases eq_or_cutOff_of_isPrefix h with rfl | hcut
    · exact hline _ (List.prefix_refl _)
    rcases cutOff_append_iff.1 hcut with hcut | ⟨q, rfl, hq⟩
    · rcases cases_of_cutOff_bytes hcut with rfl | ⟨hne, hcut⟩ | rfl
      · exact ⟨_, _, .atStart _⟩
      · exact ⟨_, _, .inside es hne hcut⟩
      · exact ⟨_, _, .behindText e es⟩
    · exact hline q hq.1

section Cut

variable {es whole : List Event} {p : List UInt8} {inside : Bool}

/-- What is read from a stream that was cut off: the events that are whole, and an error if the cut is inside a
text. -/
theorem Cut.ofBytes_eq (h : Cut es p whole inside) :
    (ofBytes p).1 = whole ∧ ((ofBytes p).2 = .complete ↔ inside = false) := by
  induction h with
  | atStart es => exact ⟨rfl, by simp [ofBytes, lines, ofLines]⟩
  | inside es hne hcut =>
    obtain ⟨hnil, herror⟩ := ofBytes_of_cutOff hcut hne
    exact ⟨hnil, by simpa using herror⟩
  | behindText e es =>
    rw [ofBytes_encode_text]
    exact ⟨rfl, by simp⟩
  | behindLine e _ ih =>
    rw [ofBytes_bytes_append]
    exact ⟨congrArg (e :: ·) ih.1, ih.2⟩

theorem Cut.isPrefix (h : Cut es p whole inside) : whole <+: es := by
  induction h with
  | atStart es => exact List.nil_prefix
  | inside es _ _ => exact List.nil_prefix
  | behindText e es => exact List.cons_prefix_cons.2 ⟨rfl, List.nil_prefix⟩
  | behindLine e _ ih => exact List.cons_prefix_cons.2 ⟨rfl, ih⟩

/-- The text of the first event stands in front of the end of the text of every event. -/
theorem encode_text_isPrefix {e f : Event} {before after : List Event} (h : e :: es = before ++ f :: after) :
    encode e.text <+: before.flatMap bytes ++ encode f.text := by
  cases before with
  | nil =>
    obtain ⟨rfl, -⟩ := List.cons.inj h
    exact List.prefix_refl _
  | cons b before =>
    obtain ⟨rfl, -⟩ := List.cons.inj h
    rw [List.flatMap_cons, bytes_eq, List.append_assoc, List.append_assoc]
    exact List.prefix_append _ _

/-- An event is among the whole ones exactly if the end of its text is in front of the cut. -/
theorem Cut.mem_whole_iff (h : Cut es p whole inside) {before after : List Event} {e : Event}
    (hes : es = before ++ e :: after) :
    before ++ [e] <+: whole ↔ before.flatMap bytes ++ encode e.text <+: p := by
  induction h generalizing before with
  | atStart es => simp [encode_text_ne_nil]
  | @inside f part es _ hcut =>
    refine iff_of_false (by simp) fun hp => hcut.2 ?_
    exact hcut.1.eq_of_length_le ((encode_text_isPrefix hes).trans hp).length_le
  | behindText f es =>
    cases before with
    | nil =>
      obtain ⟨rfl, -⟩ := List.cons.inj hes
      exact iff_of_true (List.prefix_refl _) (List.prefix_refl _)
    | cons b before =>
      obtain ⟨rfl, -⟩ := List.cons.inj hes
      refine iff_of_false (fun hp => ?_) fun hp => ?_
      · have hlen := hp.length_le
        simp only [List.cons_append, List.length_cons, List.length_append, List.length_nil] at hlen
        omega
      · have hlen := hp.length_le
        simp only [List.flatMap_cons, bytes_eq, List.length_append, List.length_cons] at hlen
        omega
  | behindLine f _ ih =>
    cases before with
    | nil =>
      obtain ⟨rfl, -⟩ := List.cons.inj hes
      refine iff_of_true (List.cons_prefix_cons.2 ⟨rfl, List.nil_prefix⟩) ?_
      rw [bytes_eq, List.append_assoc]
      exact List.prefix_append _ _
    | cons b before =>
      obtain ⟨rfl, htail⟩ := List.cons.inj hes
      rw [List.cons_append, List.cons_prefix_cons, List.flatMap_cons, List.append_assoc,
        List.prefix_append_right_inj, ← ih htail]
      exact and_iff_right rfl

/-- The stream stops between events: behind the text of an event or behind its line, or at its start. -/
def EndsBetween (es : List Event) (p : List UInt8) : Prop :=
  ∃ before after, es = before ++ after ∧
    (p = before.flatMap bytes ∨ ∃ e after', after = e :: after' ∧ p = before.flatMap bytes ++ encode e.text)

/-- The stream stops inside the text of an event. -/
def EndsInside (es : List Event) (p : List UInt8) : Prop :=
  ∃ before e after part, es = before ++ e :: after ∧ part ≠ [] ∧ CutOff part (encode e.text) ∧
    p = before.flatMap bytes ++ part

theorem EndsBetween.cons {es : List Event} {p : List UInt8} (e : Event) (h : EndsBetween es p) :
    EndsBetween (e :: es) (e.bytes ++ p) := by
  obtain ⟨before, after, rfl, rfl | ⟨f, after', rfl, rfl⟩⟩ := h
  · exact ⟨e :: before, after, rfl, Or.inl List.flatMap_cons.symm⟩
  · refine ⟨e :: before, f :: after', rfl, Or.inr ⟨f, after', rfl, ?_⟩⟩
    rw [List.flatMap_cons, List.append_assoc]

theorem EndsInside.cons {es : List Event} {p : List UInt8} (e : Event) (h : EndsInside es p) :
    EndsInside (e :: es) (e.bytes ++ p) := by
  obtain ⟨before, f, after, part, rfl, hne, hcut, rfl⟩ := h
  refine ⟨e :: before, f, after, part, rfl, hne, hcut, ?_⟩
  rw [List.flatMap_cons, List.append_assoc]

/-- A cut is where it is said to be. -/
theorem Cut.ends (h : Cut es p whole inside) : if inside then EndsInside es p else EndsBetween es p := by
  induction h with
  | atStart es => exact ⟨[], es, rfl, Or.inl rfl⟩
  | @inside e part es hne hcut => exact ⟨[], e, es, part, rfl, hne, hcut, rfl⟩
  | behindText e es => exact ⟨[], e :: es, rfl, Or.inr ⟨e, es, rfl, rfl⟩⟩
  | @behindLine es p whole inside e _ ih =>
    cases inside with
    | false => exact EndsBetween.cons e ih
    | true => exact EndsInside.cons e ih

end Cut

theorem ofBytes_flatMap (es : List Event) : ofBytes (es.flatMap bytes) = (es, .complete) := by
  have h := ofBytes_flatMap_append es []
  rw [List.append_nil] at h
  rw [h]
  exact congrArg (·, StreamEnd.complete) (List.append_nil es)

/-- Where a stream stops between events, there is no error. -/
theorem EndsBetween.complete {es : List Event} {p : List UInt8} (h : EndsBetween es p) :
    (ofBytes p).2 = .complete := by
  obtain ⟨before, after, rfl, rfl | ⟨e, after', rfl, rfl⟩⟩ := h
  · rw [ofBytes_flatMap]
  · rw [ofBytes_flatMap_append, ofBytes_encode_text]

/-- Where a stream stops inside the text of an event, there is an error. -/
theorem EndsInside.ne_complete {es : List Event} {p : List UInt8} (h : EndsInside es p) :
    (ofBytes p).2 ≠ .complete := by
  obtain ⟨before, e, after, part, rfl, hne, hcut, rfl⟩ := h
  rw [ofBytes_flatMap_append]
  exact (ofBytes_of_cutOff hcut hne).2

/-! ## Observations -/

/-- An observation reports an event with all its fields. A failure reports the type name and the message that crossed,
and is known to come from elsewhere. -/
def Reports : Event → Observation → Prop
  | completed, o => o = .completed
  | exception t m b, o => ∃ id, o = .thrown ⟨id, t, .remote t m b⟩
  | violation d, o => o = .violated d

theorem reports_observation (e : Event) (s : Session) : Reports e (e.observation.run s).1 := by
  cases e with
  | completed => rfl
  | exception t m b => exact ⟨s.nextFailure, rfl⟩
  | violation d => rfl

/-- Events are reported in order, each once. -/
theorem forall₂_reports_mapM (es : List Event) (s : Session) :
    List.Forall₂ Reports es ((es.mapM observation).run s).1 := by
  induction es generalizing s with
  | nil => exact .nil
  | cons e es ih =>
    rw [List.mapM_cons, run_bind, run_bind]
    exact .cons (e.reports_observation s) (ih _)

/-- Of a stream of events that is cut off after any number of bytes, the events are read, in order, of which the whole
text is left; they are reported with all their fields. There is no error where the stream stops between events, and
there is one where it stops inside the text of an event. -/
theorem ofBytes_take (es : List Event) (n : Nat) (s : Session) :
    let p := (es.flatMap bytes).take n
    (ofBytes p).1 <+: es ∧
      (∀ before e after, es = before ++ e :: after →
        (before ++ [e] <+: (ofBytes p).1 ↔ before.flatMap bytes ++ encode e.text <+: p)) ∧
      List.Forall₂ Reports (ofBytes p).1 (((ofBytes p).1.mapM observation).run s).1 ∧
      ((ofBytes p).2.error? = none ↔ EndsBetween es p) ∧
      ((ofBytes p).2.error? ≠ none ↔ EndsInside es p) := by
  intro p
  obtain ⟨whole, inside, hcut⟩ := exists_cut (List.take_prefix n (es.flatMap bytes))
  have hends : EndsBetween es p ∨ EndsInside es p := by
    have h := hcut.ends
    split at h
    · exact Or.inr h
    · exact Or.inl h
  have hwhole : (ofBytes p).1 = whole := hcut.ofBytes_eq.1
  refine ⟨?_, ?_, forall₂_reports_mapM _ s, ?_, ?_⟩
  · rw [hwhole]
    exact hcut.isPrefix
  · intro before e after hes
    rw [hwhole]
    exact hcut.mem_whole_iff hes
  · rw [StreamEnd.error?_eq_none_iff]
    exact ⟨fun h => hends.resolve_right fun hi => hi.ne_complete h, EndsBetween.complete⟩
  · rw [ne_eq, StreamEnd.error?_eq_none_iff]
    exact ⟨fun h => hends.resolve_left fun hb => h hb.complete, EndsInside.ne_complete⟩

end Event

end Interleave
