import Interleave.Proofs.Fallible
import Interleave.Proofs.Json.Strings

/-!
# Reading does not run out of fuel

Lists and objects are read by readers that call each other, so these take fuel. There is always enough of it.

- A cursor never goes back, and behind a value that was read whole there is less of the text left than before
  (`length_readScalar_lt`, `Shrinks`).
- So a string has enough fuel with one unit for each character (`readString_succ`), and a value, a list or an object
  with three of them and a few for the next step: one unit more makes no difference (`Settled`), nor does any number of
  them (`readValue_of_le`).
- Hence a text is read as what it is read as with any larger amount of fuel (`Document.read_eq`), so that nothing that
  is proved of reading has to know the amount.
-/

namespace Interleave.Json

variable {c c' : Cursor}

/-! ## Cursors -/

namespace Cursor

theorem length_rest_advance (c : Cursor) : c.advance.rest.length = c.rest.length - 1 := by
  rw [rest_advance, List.length_tail]

theorem length_rest_advance_le (c : Cursor) : c.advance.rest.length ≤ c.rest.length :=
  c.length_rest_advance ▸ Nat.sub_le _ _

theorem length_rest_skipBlanks_le (c : Cursor) : c.skipBlanks.rest.length ≤ c.rest.length := by
  rw [skipBlanks, rest_skip, List.length_drop]
  exact Nat.sub_le _ _

/-- Behind a comma and blanks, less is left. -/
theorem length_rest_skipBlanks_advance_le (c : Cursor) : c.advance.skipBlanks.rest.length ≤ c.rest.length - 1 :=
  Nat.le_trans c.advance.length_rest_skipBlanks_le (Nat.le_of_eq c.length_rest_advance)

end Cursor

/-! ## Strings -/

theorem length_readHex_le {n : Nat} (h : readHex c = .ok (n, c')) : c'.rest.length ≤ c.rest.length := by
  rw [readHex] at h
  split at h
  · split at h <;> cases h
    rw [Cursor.rest_skip, List.length_drop]
    exact Nat.sub_le _ _
  · cases h

theorem length_readLowSurrogate_le {high : Nat} {u : Unescaped} (h : readLowSurrogate high c = .ok (u, c')) :
    c'.rest.length ≤ c.rest.length := by
  rw [readLowSurrogate] at h
  split at h
  · split at h
    · cases h
    · rename_i low d hlow
      have hle := length_readHex_le hlow
      rw [Cursor.rest_skip, List.length_drop] at hle
      split at h <;> cases h <;> omega
  all_goals cases h
  all_goals exact Nat.le_refl _

theorem length_readEscape_le {u : Unescaped} (h : readEscape c = .ok (u, c')) : c'.rest.length ≤ c.rest.length := by
  have hadvance := c.length_rest_advance_le
  rw [readEscape] at h
  split at h
  · cases h
  · dsimp only at h
    split at h
    case h_9 =>
      split at h
      · cases h
      · rename_i n d hhex
        have hle := length_readHex_le hhex
        split at h
        · cases h
          exact Nat.le_trans hle hadvance
        · split at h
          · exact Nat.le_trans (length_readLowSurrogate_le h) (Nat.le_trans hle hadvance)
          · cases h
            exact Nat.le_trans hle hadvance
    all_goals cases h
    all_goals exact hadvance

/-- What is read as a string has at least its closing quote. -/
theorem length_readString_lt {fuel : Nat} {acc : Except SyntaxFault (List Char)} {s : Except SyntaxFault String}
    (h : readString fuel acc c = .ok (s, c')) : c'.rest.length < c.rest.length := by
  induction fuel generalizing acc c with
  | zero =>
    rw [readString_zero] at h
    cases h
  | succ fuel ih =>
    cases hc : c.rest with
    | nil =>
      rw [readString_of_rest_eq_nil hc] at h
      cases h
    | cons x rest =>
      have hadvance : c.advance.rest.length = rest.length := by rw [Cursor.rest_advance, hc, List.tail_cons]
      rw [readString.eq_def] at h
      simp only [hc] at h
      rw [List.length_cons]
      split at h
      · cases h
        exact hadvance ▸ Nat.lt_succ_self _
      · split at h
        · split at h
          · cases h
          · rename_i y d hescape
            have := length_readEscape_le hescape
            have := ih h
            omega
        · split at h
          · cases h
          · have := ih h
            omega

/-- A string is read with one unit of fuel for each character, and no better with more. -/
theorem readString_succ {fuel : Nat} (hfuel : c.rest.length ≤ fuel) (acc : Except SyntaxFault (List Char)) :
    readString (fuel + 1) acc c = readString fuel acc c := by
  induction fuel generalizing acc c with
  | zero =>
    rw [readString_zero, readString_of_rest_eq_nil (List.eq_nil_of_length_eq_zero (Nat.le_zero.1 hfuel))]
  | succ fuel ih =>
    cases hc : c.rest with
    | nil => rw [readString_of_rest_eq_nil hc, readString_of_rest_eq_nil hc]
    | cons x rest =>
      have hadvance : c.advance.rest.length ≤ fuel := by rw [Cursor.length_rest_advance]; omega
      rw [readString.eq_def, readString.eq_def (fuel + 1)]
      simp only [hc]
      rw [ih hadvance]
      cases hescape : readEscape c.advance with
      | error e => rfl
      | ok p => simp only [ih (Nat.le_trans (length_readEscape_le hescape) hadvance)]

/-! ## Scalars -/

theorem length_readDigits_le (c : Cursor) : (readDigits c).2.rest.length ≤ c.rest.length := by
  simp only [readDigits, Cursor.rest_skip, List.length_drop]
  exact Nat.sub_le _ _

theorem length_readDigits_lt (h : (readDigits c).1.isEmpty = false) : (readDigits c).2.rest.length < c.rest.length := by
  have hle : (c.rest.takeWhile Char.isDigit).length ≤ c.rest.length := (List.takeWhile_prefix _).length_le
  simp only [readDigits, List.isEmpty_map, List.isEmpty_eq_false_iff] at h
  have hpos := List.length_pos_iff.2 h
  simp only [readDigits, Cursor.rest_skip, List.length_drop]
  omega

theorem length_readFraction_le {d : Option (List Nat)} (h : readFraction c = .ok (d, c')) :
    c'.rest.length ≤ c.rest.length := by
  rw [readFraction] at h
  split at h
  · dsimp only at h
    split at h <;> cases h
    exact Nat.le_trans (length_readDigits_le _) c.length_rest_advance_le
  · cases h
    exact Nat.le_refl _

theorem length_readExponent_le {d : Option Int} (h : readExponent c = .ok (d, c')) :
    c'.rest.length ≤ c.rest.length := by
  have hdigits (b : Cursor) (hb : b.rest.length ≤ c.rest.length) : (readDigits b).2.rest.length ≤ c.rest.length :=
    Nat.le_trans (length_readDigits_le b) hb
  rw [readExponent] at h
  split at h
  case h_3 =>
    cases h
    exact Nat.le_refl _
  -- behind the letter, with a sign of either kind or with none
  all_goals
    dsimp only at h
    split at h <;> dsimp only at h <;> split at h <;> cases h <;>
      exact hdigits _ (by simp only [Cursor.length_rest_advance]; omega)

theorem length_readNumber_lt {n : Number} (h : readNumber c = .ok (n, c')) : c'.rest.length < c.rest.length := by
  rw [readNumber] at h
  split at h
  rename_i negative d hsign
  have hd : d.rest.length ≤ c.rest.length := by
    split at hsign <;> cases hsign
    · exact c.length_rest_advance_le
    · exact Nat.le_refl _
  dsimp only at h
  split at h
  · cases h
  rename_i hwhole
  split at h
  · cases h
  obtain ⟨⟨fraction, d'⟩, hfraction, h⟩ := bind_eq_ok_iff.1 h
  obtain ⟨⟨exponent, d''⟩, hexponent, h⟩ := bind_eq_ok_iff.1 h
  cases h
  have hdigits := length_readDigits_lt (by simpa using hwhole)
  have htail := Nat.le_trans (length_readExponent_le hexponent) (length_readFraction_le hfraction)
  exact Nat.lt_of_le_of_lt htail (Nat.lt_of_lt_of_le hdigits hd)

theorem length_readWord_le {word : List Char} {v w : Scalar} (h : readWord word v c = .ok (w, c')) :
    c'.rest.length + word.length ≤ c.rest.length := by
  rw [readWord] at h
  dsimp only at h
  split at h
  · cases h
    rename_i hlen
    have hle : word.length ≤ (word.zip c.rest).length := hlen ▸ (List.takeWhile_prefix _).length_le
    rw [List.length_zip] at hle
    rw [Cursor.rest_skip, List.length_drop]
    omega
  · split at h <;> cases h

/-- No value is read from nothing. -/
theorem length_readScalar_lt {v : Scalar} (h : readScalar c = .ok (v, c')) : c'.rest.length < c.rest.length := by
  have hword {word : List Char} {w : Scalar} (hne : word ≠ []) (h : readWord word w c = .ok (v, c')) :
      c'.rest.length < c.rest.length := by
    have := length_readWord_le h
    have := List.length_pos_iff.2 hne
    omega
  rw [readScalar] at h
  split at h
  · cases h
  · exact hword (by decide) h
  · exact hword (by decide) h
  · exact hword (by decide) h
  · rename_i rest hc
    cases hread : readString rest.length (.ok []) c.advance with
    | error e =>
      rw [hread] at h
      cases h
    | ok p =>
      rw [hread] at h
      cases h
      exact Nat.lt_of_lt_of_le (length_readString_lt hread) c.length_rest_advance_le
  · split at h
    · cases hread : readNumber c with
      | error e =>
        rw [hread] at h
        cases h
      | ok p =>
        rw [hread] at h
        cases h
        exact length_readNumber_lt hread
    · cases h

/-! ## Values -/

/-- What is read whole with the given fuel leaves less of the text than there was. -/
structure Shrinks (fuel : Nat) : Prop where
  value {c c' : Cursor} {d : Document} (h : readValue fuel c = (d, c')) (hd : d.stopped? = none) :
    c'.rest.length < c.rest.length
  items {c c' : Cursor} {first : Bool} {ds : List Document} {stop : Position}
    (h : readItems fuel first c = (ds, .ok stop, c')) : c'.rest.length < c.rest.length
  item {c c' : Cursor} {ds : List Document} {stop : Position} (h : readItem fuel c = (ds, .ok stop, c')) :
    c'.rest.length < c.rest.length
  members {c c' : Cursor} {first : Bool} {ms : List (Except SyntaxFault String × Document)} {stop : Position}
    (h : readMembers fuel first c = (ms, .ok stop, c')) : c'.rest.length < c.rest.length
  member {c c' : Cursor} {ms : List (Except SyntaxFault String × Document)} {stop : Position}
    (h : readMember fuel c = (ms, .ok stop, c')) : c'.rest.length < c.rest.length

namespace Shrinks

theorem zero : Shrinks 0 where
  value h hd := by
    rw [readValue] at h
    cases h
    cases hd
  items h := by
    rw [readItems] at h
    cases h
  item h := by
    rw [readItem] at h
    cases h
  members h := by
    rw [readMembers] at h
    cases h
  member h := by
    rw [readMember] at h
    cases h

variable {fuel : Nat} (h : Shrinks fuel)
include h

theorem value_succ {d : Document} (hread : readValue (fuel + 1) c = (d, c')) (hd : d.stopped? = none) :
    c'.rest.length < c.rest.length := by
  refine Nat.lt_of_lt_of_le ?_ c.length_rest_skipBlanks_le
  rw [readValue] at hread
  dsimp only at hread
  split at hread
  · rcases hitems : readItems fuel true c.skipBlanks.advance with ⟨items, stop | stop, c''⟩
    · rw [hitems] at hread
      cases hread
      cases hd
    · rw [hitems] at hread
      cases hread
      exact Nat.lt_of_lt_of_le (h.items hitems) c.skipBlanks.length_rest_advance_le
  · rcases hmembers : readMembers fuel true c.skipBlanks.advance with ⟨members, stop | stop, c''⟩
    · rw [hmembers] at hread
      cases hread
      cases hd
    · rw [hmembers] at hread
      cases hread
      exact Nat.lt_of_lt_of_le (h.members hmembers) c.skipBlanks.length_rest_advance_le
  · split at hread <;> cases hread
    · exact length_readScalar_lt ‹_›
    · cases hd

theorem items_succ {first : Bool} {ds : List Document} {stop : Position}
    (hread : readItems (fuel + 1) first c = (ds, .ok stop, c')) : c'.rest.length < c.rest.length := by
  refine Nat.lt_of_lt_of_le ?_ c.length_rest_skipBlanks_le
  have hafter := c.skipBlanks.length_rest_skipBlanks_advance_le
  rw [readItems] at hread
  dsimp only at hread
  split at hread
  · cases hread
  · rename_i rest hc
    cases hread
    rw [Cursor.length_rest_advance, hc, List.length_cons]
    exact Nat.lt_succ_self _
  · split at hread
    · exact h.item hread
    · split at hread
      · cases hread
      · cases hread
      · exact Nat.lt_of_lt_of_le (h.item hread) (Nat.le_trans hafter (Nat.sub_le _ _))
  · split at hread
    · exact h.item hread
    · cases hread

theorem item_succ {ds : List Document} {stop : Position} (hread : readItem (fuel + 1) c = (ds, .ok stop, c')) :
    c'.rest.length < c.rest.length := by
  rw [readItem] at hread
  rcases hvalue : readValue fuel c with ⟨d, c''⟩
  rw [hvalue] at hread
  dsimp only at hread
  split at hread
  · cases hread
  · rename_i hd
    rcases hitems : readItems fuel false c'' with ⟨items, stop', c₃⟩
    rw [hitems] at hread
    cases hread
    exact Nat.lt_trans (h.items hitems) (h.value hvalue hd)

theorem members_succ {first : Bool} {ms : List (Except SyntaxFault String × Document)} {stop : Position}
    (hread : readMembers (fuel + 1) first c = (ms, .ok stop, c')) : c'.rest.length < c.rest.length := by
  refine Nat.lt_of_lt_of_le ?_ c.length_rest_skipBlanks_le
  have hafter := c.skipBlanks.length_rest_skipBlanks_advance_le
  rw [readMembers] at hread
  dsimp only at hread
  split at hread
  · cases hread
  · rename_i rest hc
    cases hread
    rw [Cursor.length_rest_advance, hc, List.length_cons]
    exact Nat.lt_succ_self _
  · split at hread
    · cases hread
    · split at hread
      · exact Nat.lt_of_lt_of_le (h.member hread) (Nat.le_trans hafter (Nat.sub_le _ _))
      all_goals cases hread
  · split at hread
    · exact h.member hread
    · cases hread
  · cases hread

theorem member_succ {ms : List (Except SyntaxFault String × Document)} {stop : Position}
    (hread : readMember (fuel + 1) c = (ms, .ok stop, c')) : c'.rest.length < c.rest.length := by
  rw [readMember] at hread
  split at hread
  · cases hread
  · rename_i key d hkey
    have hlt := length_readString_lt hkey
    have hblanks := d.length_rest_skipBlanks_le
    dsimp only at hread
    split at hread
    · rcases hvalue : readValue fuel d.skipBlanks.advance with ⟨v, c''⟩
      rw [hvalue] at hread
      dsimp only at hread
      split at hread
      · cases hread
      · rename_i hv
        rcases hmembers : readMembers fuel false c'' with ⟨members, stop', c₃⟩
        rw [hmembers] at hread
        cases hread
        have hshrinks := Nat.lt_trans (h.members hmembers) (h.value hvalue hv)
        rw [Cursor.length_rest_advance] at hlt hshrinks
        show c₃.rest.length < _
        omega
    all_goals cases hread

end Shrinks

theorem shrinks (fuel : Nat) : Shrinks fuel := by
  induction fuel with
  | zero => exact .zero
  | succ fuel ih => exact ⟨ih.value_succ, ih.items_succ, ih.item_succ, ih.members_succ, ih.member_succ⟩

/-! ## Fuel -/

/-- The given fuel is as good as one unit more, wherever it is enough for what is left of the text. Of the three units
for a character, a value takes one, and those before and behind it in a list or an object take the others. -/
structure Settled (fuel : Nat) : Prop where
  value (c : Cursor) (h : 3 * c.rest.length + 1 ≤ fuel) : readValue (fuel + 1) c = readValue fuel c
  items (first : Bool) (c : Cursor) (h : 3 * c.rest.length + 3 ≤ fuel) :
    readItems (fuel + 1) first c = readItems fuel first c
  item (c : Cursor) (h : 3 * c.rest.length + 2 ≤ fuel) : readItem (fuel + 1) c = readItem fuel c
  members (first : Bool) (c : Cursor) (h : 3 * c.rest.length + 3 ≤ fuel) :
    readMembers (fuel + 1) first c = readMembers fuel first c
  member (c : Cursor) (h : 3 * c.rest.length + 2 ≤ fuel) : readMember (fuel + 1) c = readMember fuel c

namespace Settled

theorem zero : Settled 0 where
  value _ h := absurd h (Nat.not_succ_le_zero _)
  items _ _ h := absurd h (Nat.not_succ_le_zero _)
  item _ h := absurd h (Nat.not_succ_le_zero _)
  members _ _ h := absurd h (Nat.not_succ_le_zero _)
  member _ h := absurd h (Nat.not_succ_le_zero _)

variable {fuel : Nat} (h : Settled fuel)
include h

theorem value_succ (hfuel : 3 * c.rest.length + 1 ≤ fuel + 1) : readValue (fuel + 2) c = readValue (fuel + 1) c := by
  have hblanks := c.length_rest_skipBlanks_le
  -- a list or an object is one character further on
  have hinside {x : Char} {rest : List Char} (hc : c.skipBlanks.rest = x :: rest) :
      3 * c.skipBlanks.advance.rest.length + 3 ≤ fuel := by
    rw [hc, List.length_cons] at hblanks
    rw [Cursor.length_rest_advance, hc, List.length_cons]
    omega
  rw [readValue, readValue.eq_def (fuel + 1)]
  dsimp only
  split
  · rw [h.items true _ (hinside ‹_›)]
  · rw [h.members true _ (hinside ‹_›)]
  · rfl

theorem items_succ {first : Bool} (hfuel : 3 * c.rest.length + 3 ≤ fuel + 1) :
    readItems (fuel + 2) first c = readItems (fuel + 1) first c := by
  have hblanks := c.length_rest_skipBlanks_le
  have hafter := c.skipBlanks.length_rest_skipBlanks_advance_le
  rw [readItems, readItems.eq_def (fuel + 1)]
  dsimp only
  rw [h.item c.skipBlanks (by omega), h.item c.skipBlanks.advance.skipBlanks (by omega)]

theorem item_succ (hfuel : 3 * c.rest.length + 2 ≤ fuel + 1) : readItem (fuel + 2) c = readItem (fuel + 1) c := by
  rw [readItem, readItem.eq_def (fuel + 1), h.value c (by omega)]
  dsimp only
  rcases hvalue : readValue fuel c with ⟨d, c'⟩
  dsimp only
  split
  · rfl
  · rename_i hd
    have hlt := (shrinks fuel).value hvalue hd
    rw [h.items false c' (by omega)]

theorem members_succ {first : Bool} (hfuel : 3 * c.rest.length + 3 ≤ fuel + 1) :
    readMembers (fuel + 2) first c = readMembers (fuel + 1) first c := by
  have hblanks := c.length_rest_skipBlanks_le
  have hafter := c.skipBlanks.length_rest_skipBlanks_advance_le
  rw [readMembers, readMembers.eq_def (fuel + 1)]
  dsimp only
  rw [h.member c.skipBlanks (by omega), h.member c.skipBlanks.advance.skipBlanks (by omega)]

theorem member_succ (hfuel : 3 * c.rest.length + 2 ≤ fuel + 1) :
    readMember (fuel + 2) c = readMember (fuel + 1) c := by
  rw [readMember, readMember.eq_def (fuel + 1)]
  dsimp only
  cases hkey : readString c.rest.length (.ok []) c.advance with
  | error e => rfl
  | ok p =>
    obtain ⟨key, d⟩ := p
    have hlt := length_readString_lt hkey
    have hblanks := d.length_rest_skipBlanks_le
    have hcolon : d.skipBlanks.advance.rest.length < c.rest.length := by
      rw [Cursor.length_rest_advance] at hlt ⊢
      omega
    dsimp only
    rw [h.value d.skipBlanks.advance (by omega)]
    rcases hvalue : readValue fuel d.skipBlanks.advance with ⟨v, c'⟩
    dsimp only
    cases hv : v.stopped? with
    | some e => rfl
    | none =>
      have hshrinks := (shrinks fuel).value hvalue hv
      rw [h.members false c' (by omega)]

end Settled

theorem settled (fuel : Nat) : Settled fuel := by
  induction fuel with
  | zero => exact .zero
  | succ fuel ih =>
    exact ⟨fun _ => ih.value_succ, fun _ _ => ih.items_succ, fun _ => ih.item_succ, fun _ _ => ih.members_succ,
      fun _ => ih.member_succ⟩

/-- A value is read alike with any fuel that is enough. -/
theorem readValue_of_le {fuel fuel' : Nat} (hfuel : 3 * c.rest.length + 1 ≤ fuel) (h : fuel ≤ fuel') :
    readValue fuel' c = readValue fuel c := by
  induction h with
  | refl => rfl
  | step h ih => rw [← ih, (settled _).value c (Nat.le_trans hfuel h)]

/-- **The fuel does not matter.** A text is read as the document, and with the fault behind it, that it is read as with
any fuel from three units for each character and one more on. -/
theorem Document.read_eq (text : String) {fuel : Nat} (h : 3 * text.toList.length + 1 ≤ fuel) :
    read text =
      let (d, c) := readValue fuel ⟨text.toList, 1, 0⟩
      (d, if c.skipBlanks.rest.isEmpty then none else some ⟨.trailingCharacters, c.skipBlanks.nextPosition⟩) := by
  rw [readValue_of_le (Nat.le_refl _) h]
  rfl

end Interleave.Json
