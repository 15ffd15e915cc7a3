import Mathlib.Data.List.Forall2
import Interleave.Event.Reader
import Interleave.Proofs.Json.Fuel

/-!
# Reading objects of strings that were written

An event is an object whose members are strings.

- A string is a value (`readValue_stringText`), and a member is read in one step, up to the comma or the brace behind
  it (`readMember_memberText`).
- So an object is read from its text (`read_objectText`), and from a part of its text that has the opening brace an
  object is read that stops at a fault (`read_of_cutOff_objectText`).
-/

namespace Interleave.Json

open Text Event

variable {c : Cursor} {rest : List Char}

/-! ## Values -/

theorem quote_notMem_blanks : '"' ∉ [' ', '\t', '\n', '\r'] := by decide

/-- At a quote, a value is the string that is read behind it. -/
theorem readValue_of_readString {v : Except SyntaxFault String} {c' : Cursor} (hc : c.rest = '"' :: rest)
    (hread : readString rest.length (.ok []) c.advance = .ok (v, c')) (fuel : Nat) :
    readValue (fuel + 1) c = (.scalar (.string v) c'.position, c') := by
  have hblanks := Cursor.skipBlanks_of_rest_eq_cons hc quote_notMem_blanks
  rw [readValue]
  simp only [hblanks, hc, readScalar, hread, Except.map]
  rfl

/-- At a quote, there is no value if there is no string behind it. -/
theorem readValue_of_readString_eq_error {e : SyntaxFault} (hc : c.rest = '"' :: rest)
    (hread : readString rest.length (.ok []) c.advance = .error e) (fuel : Nat) :
    readValue (fuel + 1) c = (.broken e, c) := by
  have hblanks := Cursor.skipBlanks_of_rest_eq_cons hc quote_notMem_blanks
  rw [readValue]
  simp only [hblanks, hc, readScalar, hread, Except.map]
  rfl

/-- A string is read from its text. -/
theorem readValue_stringText {s : List Char} (hc : c.rest = stringText s ++ rest) (fuel : Nat) :
    ∃ c', c'.rest = rest ∧
      readValue (fuel + 1) c = (.scalar (.string (.ok (String.ofList s))) c'.position, c') := by
  rw [stringText, List.cons_append, List.append_assoc, List.singleton_append] at hc
  have hfuel : s.length < (s.flatMap escapeChar ++ '"' :: rest).length := by
    have := length_le_flatMap_escapeChar s
    simp only [List.length_append, List.length_cons]
    omega
  have hadvance : c.advance.rest = s.flatMap escapeChar ++ '"' :: rest := by simp [hc]
  obtain ⟨c', hc', hread⟩ := readString_append hfuel [] hadvance
  exact ⟨c', hc', readValue_of_readString hc hread fuel⟩

/-- No string is read from a part of its text. -/
theorem readValue_of_cutOff {s : List Char} (hc : CutOff c.rest (stringText s)) (fuel : Nat) :
    ∃ e c', readValue fuel c = (.broken e, c') := by
  cases fuel with
  | zero =>
    rw [readValue]
    exact ⟨_, _, rfl⟩
  | succ fuel =>
    rw [stringText, cutOff_cons_iff] at hc
    rcases hc with hnil | ⟨q, hc, hcut⟩
    · rw [readValue, Cursor.skipBlanks_of_rest_eq_nil hnil]
      simp only [hnil, readScalar]
      exact ⟨_, _, rfl⟩
    · obtain ⟨e, he⟩ := readString_of_cutOff (c := c.advance) (by simpa [hc] using hcut) q.length (.ok [])
      exact ⟨e, c, readValue_of_readString_eq_error hc he fuel⟩

/-! ## Members -/

theorem colon_notMem_blanks : ':' ∉ [' ', '\t', '\n', '\r'] := by decide

/-- The key of a member is read up to the colon. -/
theorem readString_key {key : List Char} (hc : c.rest = stringText key ++ rest) :
    ∃ c', c'.rest = rest ∧
      readString c.rest.length (.ok []) c.advance = .ok (.ok (String.ofList key), c') := by
  have hfuel : key.length < c.rest.length := by
    have := length_le_flatMap_escapeChar key
    simp only [hc, stringText, List.length_append, List.length_cons]
    omega
  exact readString_append hfuel [] (by simp [hc, stringText])

/-- No key is read from a part of its text. -/
theorem readString_key_of_cutOff {key : List Char} (hc : CutOff c.rest (stringText key)) :
    ∃ e, readString c.rest.length (.ok []) c.advance = .error e := by
  rw [stringText, cutOff_cons_iff] at hc
  rcases hc with hnil | ⟨q, hc, hcut⟩
  · exact ⟨_, readString_of_rest_eq_nil (by simp [hnil]) _ _⟩
  · exact readString_of_cutOff (by simpa [hc] using hcut) _ _

/-- A member that was written is read in one step. -/
theorem readMember_memberText {key value : String} (hc : c.rest = memberText key value ++ rest) (fuel : Nat) :
    ∃ c' place, c'.rest = rest ∧ readMember (fuel + 2) c =
      ((.ok key, .scalar (.string (.ok value)) place) :: (readMembers (fuel + 1) false c').1,
        (readMembers (fuel + 1) false c').2) := by
  rw [memberText, List.append_assoc, List.cons_append] at hc
  obtain ⟨colon, hcolon, hkey⟩ := readString_key hc
  have hadvance : colon.advance.rest = stringText value.toList ++ rest := by simp [hcolon]
  obtain ⟨c', hc', hvalue⟩ := readValue_stringText hadvance fuel
  have hblanks := Cursor.skipBlanks_of_rest_eq_cons hcolon colon_notMem_blanks
  refine ⟨c', c'.position, hc', ?_⟩
  rw [readMember, hkey]
  simp only [hblanks, hcolon, hvalue, Document.stopped?, String.ofList_toList]

/-- No member is read from a part of its text. -/
theorem readMember_of_cutOff {key value : String} (hc : CutOff c.rest (memberText key value)) (fuel : Nat) :
    ∃ e, (readMember fuel c).2.1 = .error e := by
  cases fuel with
  | zero =>
    rw [readMember]
    exact ⟨_, rfl⟩
  | succ fuel =>
    rw [memberText, cutOff_append_iff] at hc
    simp only [cutOff_cons_iff] at hc
    rcases hc with hcut | ⟨_, hc, rfl | ⟨q, rfl, hcut⟩⟩
    · obtain ⟨e, he⟩ := readString_key_of_cutOff hcut
      rw [readMember, he]
      exact ⟨e, rfl⟩
    · -- the text ends behind the key
      obtain ⟨colon, hcolon, hkey⟩ := readString_key hc
      have hblanks := Cursor.skipBlanks_of_rest_eq_nil hcolon
      rw [readMember, hkey]
      simp only [hblanks, hcolon]
      exact ⟨_, rfl⟩
    · -- the text ends in the value
      obtain ⟨colon, hcolon, hkey⟩ := readString_key hc
      obtain ⟨e, c', hvalue⟩ := readValue_of_cutOff (c := colon.advance) (by simpa [hcolon] using hcut) fuel
      have hblanks := Cursor.skipBlanks_of_rest_eq_cons hcolon colon_notMem_blanks
      rw [readMember, hkey]
      simp only [hblanks, hcolon, hvalue, Document.stopped?]
      exact ⟨e, rfl⟩

/-! ## Objects -/

/-- The text of an object behind a member, with the members that follow. -/
def tailText (members : List (String × String)) : List Char :=
  members.flatMap (fun m => ',' :: memberText m.1 m.2) ++ ['\x7d']

/-- The value is the given string, wherever it stood. -/
def Document.IsString (d : Document) (s : String) : Prop := ∃ place, d = .scalar (.string (.ok s)) place

/-- What reading keeps of members: their keys, and their values as strings. -/
def Holds (read : List (Except SyntaxFault String × Document)) (members : List (String × String)) : Prop :=
  List.Forall₂ (fun d m => d.1 = .ok m.1 ∧ d.2.IsString m.2) read members

theorem comma_notMem_blanks : ',' ∉ [' ', '\t', '\n', '\r'] := by decide

theorem brace_notMem_blanks : '\x7d' ∉ [' ', '\t', '\n', '\r'] := by decide

/-- Where a text ends, an object has not ended. -/
theorem readMembers_of_rest_eq_nil (hc : c.rest = []) (fuel : Nat) (first : Bool) :
    ∃ e, (readMembers fuel first c).2.1 = .error e := by
  have hblanks := Cursor.skipBlanks_of_rest_eq_nil hc
  rw [readMembers.eq_def]
  cases fuel <;> simp [hblanks, hc]

/-- An object ends with its brace. -/
theorem readMembers_brace (hc : c.rest = '\x7d' :: rest) (fuel : Nat) (first : Bool) :
    readMembers (fuel + 1) first c = ([], .ok c.advance.position, c.advance) := by
  have hblanks := Cursor.skipBlanks_of_rest_eq_cons hc brace_notMem_blanks
  rw [readMembers.eq_def]
  simp only [hblanks, hc]

/-- At the quote of its key, a first member is read. -/
theorem readMembers_first (hc : c.rest = '"' :: rest) (fuel : Nat) :
    readMembers (fuel + 1) true c = readMember fuel c := by
  have hblanks := Cursor.skipBlanks_of_rest_eq_cons hc quote_notMem_blanks
  rw [readMembers.eq_def]
  simp only [hblanks, hc]
  rfl

/-- Behind a comma, a further member is read. -/
theorem readMembers_comma (hc : c.rest = ',' :: '"' :: rest) (fuel : Nat) :
    readMembers (fuel + 1) false c = readMember fuel c.advance := by
  have hblanks := Cursor.skipBlanks_of_rest_eq_cons hc comma_notMem_blanks
  have hquote : c.advance.rest = '"' :: rest := by simp [hc]
  have hafter := Cursor.skipBlanks_of_rest_eq_cons hquote quote_notMem_blanks
  rw [readMembers.eq_def]
  simp only [hblanks, hc, hafter, hquote]
  rfl

/-- Behind a comma, an object does not end. -/
theorem readMembers_comma_of_end (hc : c.rest = [',']) (fuel : Nat) :
    ∃ e, (readMembers fuel false c).2.1 = .error e := by
  have hblanks := Cursor.skipBlanks_of_rest_eq_cons hc comma_notMem_blanks
  have hnil : c.advance.rest = [] := by simp [hc]
  have hafter := Cursor.skipBlanks_of_rest_eq_nil hnil
  rw [readMembers.eq_def]
  cases fuel <;> simp [hblanks, hc, hafter]

theorem exists_memberText_eq (key value : String) : ∃ text, memberText key value = '"' :: text :=
  ⟨_, by rw [memberText, stringText, List.cons_append]⟩

theorem tailText_cons (m : String × String) (ms : List (String × String)) :
    tailText (m :: ms) = ',' :: (memberText m.1 m.2 ++ tailText ms) := by
  simp [tailText]

/-- The members of an object that was written are read, behind one of them. -/
theorem readMembers_tailText {ms : List (String × String)} (hc : c.rest = tailText ms ++ rest) {fuel : Nat}
    (hfuel : 2 * ms.length < fuel) :
    ∃ docs stop c', readMembers fuel false c = (docs, .ok stop, c') ∧ c'.rest = rest ∧ Holds docs ms := by
  induction ms generalizing c fuel with
  | nil =>
    obtain ⟨fuel, rfl⟩ := Nat.exists_eq_succ_of_ne_zero (Nat.ne_of_gt hfuel)
    exact ⟨[], _, c.advance, readMembers_brace hc fuel false, by simp [hc, tailText], .nil⟩
  | cons m ms ih =>
    obtain ⟨fuel, rfl⟩ : ∃ n, fuel = n + 3 := ⟨fuel - 3, by simp only [List.length_cons] at hfuel; omega⟩
    obtain ⟨text, htext⟩ := exists_memberText_eq m.1 m.2
    have hcomma : c.rest = ',' :: '"' :: (text ++ tailText ms ++ rest) := by
      rw [hc, tailText_cons, htext]
      simp
    have hadvance : c.advance.rest = memberText m.1 m.2 ++ (tailText ms ++ rest) := by simp [hcomma, htext]
    obtain ⟨c', place, hc', hmember⟩ := readMember_memberText hadvance fuel
    have hfuel' : 2 * ms.length < fuel + 1 := by
      simp only [List.length_cons] at hfuel
      omega
    obtain ⟨docs, stop, c'', hread, hrest, hholds⟩ := ih hc' hfuel'
    refine ⟨(.ok m.1, .scalar (.string (.ok m.2)) place) :: docs, stop, c'', ?_, hrest,
      .cons ⟨rfl, place, rfl⟩ hholds⟩
    rw [readMembers_comma hcomma, hmember, hread]

/-- A member and its value take two steps, so less fuel does not read it. -/
theorem readMember_of_lt {fuel : Nat} (h : fuel < 2) (c : Cursor) : ∃ e, (readMember fuel c).2.1 = .error e := by
  rw [readMember.eq_def]
  obtain rfl | rfl : fuel = 0 ∨ fuel = 1 := by omega
  · exact ⟨_, rfl⟩
  · dsimp only
    split
    · exact ⟨_, rfl⟩
    · split
      · rw [readValue]
        exact ⟨_, rfl⟩
      · exact ⟨_, rfl⟩
      · exact ⟨_, rfl⟩

/-- Members are not read up to the end of the object where their text is cut off. -/
theorem readMember_of_cutOff_append {m : String × String} {ms : List (String × String)}
    (ih : ∀ {c : Cursor}, CutOff c.rest (tailText ms) → ∀ fuel, ∃ e, (readMembers fuel false c).2.1 = .error e)
    (hc : CutOff c.rest (memberText m.1 m.2 ++ tailText ms)) (fuel : Nat) :
    ∃ e, (readMember fuel c).2.1 = .error e := by
  rcases cutOff_append_iff.1 hc with hcut | ⟨q, hc, hcut⟩
  · exact readMember_of_cutOff hcut fuel
  · rcases Nat.lt_or_ge fuel 2 with hlt | hge
    · exact readMember_of_lt hlt c
    · obtain ⟨fuel, rfl⟩ := Nat.exists_eq_add_of_le' hge
      obtain ⟨c', place, hc', hmember⟩ := readMember_memberText hc fuel
      rw [hmember]
      exact ih (by rwa [hc']) (fuel + 1)

/-- Members are not read up to the end of the object where their text is cut off, behind one of them. -/
theorem readMembers_of_cutOff_tailText {ms : List (String × String)} (hc : CutOff c.rest (tailText ms))
    (fuel : Nat) : ∃ e, (readMembers fuel false c).2.1 = .error e := by
  induction ms generalizing c fuel with
  | nil => exact readMembers_of_rest_eq_nil (cutOff_singleton_iff.1 hc) fuel false
  | cons m ms ih =>
    obtain ⟨text, htext⟩ := exists_memberText_eq m.1 m.2
    rw [tailText_cons, cutOff_cons_iff] at hc
    rcases hc with hnil | ⟨q, hc, hcut⟩
    · exact readMembers_of_rest_eq_nil hnil fuel false
    · have hhead := hcut
      rw [htext, List.cons_append, cutOff_cons_iff] at hhead
      rcases hhead with rfl | ⟨q', rfl, -⟩
      · exact readMembers_comma_of_end hc fuel
      · cases fuel with
        | zero =>
          rw [readMembers]
          exact ⟨_, rfl⟩
        | succ fuel =>
          rw [readMembers_comma hc]
          exact readMember_of_cutOff_append (fun h => ih h) (by simpa [hc] using hcut) fuel

/-- The text of an object with members, at least one. -/
def objectText (m : String × String) (ms : List (String × String)) : List Char :=
  '\x7b' :: (memberText m.1 m.2 ++ tailText ms)

theorem openingBrace_notMem_blanks : '\x7b' ∉ [' ', '\t', '\n', '\r'] := by decide

/-- At a brace, a value is an object of the members that are read behind it. -/
theorem readValue_brace (hc : c.rest = '\x7b' :: rest) (fuel : Nat) :
    readValue (fuel + 1) c =
      (.object c.position (readMembers fuel true c.advance).1 (readMembers fuel true c.advance).2.1,
        (readMembers fuel true c.advance).2.2) := by
  have hblanks := Cursor.skipBlanks_of_rest_eq_cons hc openingBrace_notMem_blanks
  rw [readValue]
  simp only [hblanks, hc]

theorem length_lt_tailText (ms : List (String × String)) : ms.length < (tailText ms).length := by
  induction ms with
  | nil => exact Nat.zero_lt_one
  | cons m ms ih =>
    rw [tailText_cons]
    simp only [List.length_cons, List.length_append]
    omega

/-- The members of an object that was written are read. -/
theorem readMembers_memberText_tailText {m : String × String} {ms : List (String × String)}
    (hc : c.rest = memberText m.1 m.2 ++ (tailText ms ++ rest)) {fuel : Nat} (hfuel : 2 * ms.length + 3 ≤ fuel) :
    ∃ docs stop c', readMembers fuel true c = (docs, .ok stop, c') ∧ c'.rest = rest ∧ Holds docs (m :: ms) := by
  obtain ⟨fuel, rfl⟩ : ∃ n, fuel = n + 3 := ⟨fuel - 3, by omega⟩
  obtain ⟨text, htext⟩ := exists_memberText_eq m.1 m.2
  obtain ⟨c', place, hc', hmember⟩ := readMember_memberText hc fuel
  have hfuel' : 2 * ms.length < fuel + 1 := by omega
  obtain ⟨docs, stop, c'', hread, hrest, hholds⟩ := readMembers_tailText hc' hfuel'
  refine ⟨(.ok m.1, .scalar (.string (.ok m.2)) place) :: docs, stop, c'', ?_, hrest,
    .cons ⟨rfl, place, rfl⟩ hholds⟩
  rw [readMembers_first (by rw [hc, htext, List.cons_append]), hmember, hread]

/-- An object is read from its text, and nothing is left behind it. -/
theorem read_objectText (m : String × String) (ms : List (String × String)) :
    ∃ start docs stop, Document.read (String.ofList (objectText m ms)) = (.object start docs (.ok stop), none) ∧
      Holds docs (m :: ms) := by
  let c : Cursor := ⟨objectText m ms, 1, 0⟩
  have hlen := length_lt_tailText ms
  have hadvance : c.advance.rest = memberText m.1 m.2 ++ (tailText ms ++ []) := by simp [c, objectText]
  have hfuel : 2 * ms.length + 3 ≤ 3 * (objectText m ms).length := by
    simp only [objectText, List.length_cons, List.length_append]
    omega
  obtain ⟨docs, stop, c', hread, hrest, hholds⟩ := readMembers_memberText_tailText hadvance hfuel
  refine ⟨c.position, docs, stop, ?_, hholds⟩
  have hvalue := readValue_brace (c := c) rfl (3 * (objectText m ms).length)
  rw [hread] at hvalue
  have hblanks := Cursor.skipBlanks_of_rest_eq_nil hrest
  rw [Document.read_eq _ (Nat.le_refl _), String.toList_ofList]
  simp only [c] at hvalue
  simp only [hvalue, hblanks, hrest, List.isEmpty_nil, if_true]
  rfl

/-- From a part of the text of an object, with its brace, an object is read that stops at a fault. -/
theorem read_of_cutOff_objectText {m : String × String} {ms : List (String × String)} {q : List Char}
    (hq : CutOff q (objectText m ms)) (hne : q ≠ []) :
    ∃ start docs e, (Document.read (String.ofList q)).1 = .object start docs (.error e) := by
  rw [objectText, cutOff_cons_iff] at hq
  obtain ⟨q, rfl, hcut⟩ := hq.resolve_left hne
  let c : Cursor := ⟨'\x7b' :: q, 1, 0⟩
  have hvalue := readValue_brace (c := c) rfl (3 * c.rest.length + 1)
  have hstop : ∃ e, (readMembers (3 * c.rest.length + 1) true c.advance).2.1 = .error e := by
    have hhead := hcut
    obtain ⟨text, htext⟩ := exists_memberText_eq m.1 m.2
    rw [htext, List.cons_append, cutOff_cons_iff] at hhead
    rcases hhead with rfl | ⟨q', rfl, -⟩
    · exact readMembers_of_rest_eq_nil rfl _ _
    · rw [readMembers_first rfl]
      exact readMember_of_cutOff_append (fun h => readMembers_of_cutOff_tailText h) hcut _
  obtain ⟨e, he⟩ := hstop
  rw [he] at hvalue
  -- one unit of fuel more than the text is read with
  have hread : (Document.read (String.ofList ('\x7b' :: q))).1 = (readValue (3 * c.rest.length + 2) c).1 := by
    rw [Document.read_eq (String.ofList ('\x7b' :: q)) (Nat.le_succ _), String.toList_ofList]
  exact ⟨_, _, e, hread.trans (congrArg Prod.fst hvalue)⟩

end Interleave.Json
