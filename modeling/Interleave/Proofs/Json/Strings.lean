import Interleave.Json.Document
import Interleave.Json.Text
import Interleave.Proofs.Text.CutOff

/-!
# Reading strings that were written

Reading depends on the characters that are left, not on the place that a cursor has counted.

- A character is written as itself, or as a backslash and an escape that reads as the character and that cannot be
  read when it is cut off (`escapeChar_cases`).
- So a string is read back from its text, whatever follows (`readString_append`), and from no part of its text
  (`readString_of_cutOff`).
- No line end is written for a character (`newline_notMem_escapeChar`).
-/

namespace Interleave.Json

open Text

/-! ## Cursors -/

namespace Cursor

variable {c : Cursor} {x : Char} {rest : List Char}

@[simp] theorem rest_advance (c : Cursor) : c.advance.rest = c.rest.tail := by
  unfold advance
  split <;> simp_all

@[simp] theorem rest_skip (c : Cursor) (n : Nat) : (c.skip n).rest = c.rest.drop n := by
  induction n generalizing c with
  | zero => rfl
  | succ n ih => rw [skip, ih, rest_advance, List.drop_tail]

theorem skipBlanks_of_rest_eq_nil (h : c.rest = []) : c.skipBlanks = c := by
  rw [skipBlanks, h]
  rfl

/-- Where no blank stands, none is skipped. -/
theorem skipBlanks_of_rest_eq_cons (h : c.rest = x :: rest) (hx : x ∉ [' ', '\t', '\n', '\r']) :
    c.skipBlanks = c := by
  simp only [List.mem_cons, List.not_mem_nil, or_false, not_or] at hx
  rw [skipBlanks, h, List.takeWhile_cons_of_neg (by simp [hx])]
  rfl

end Cursor

/-! ## Characters -/

theorem hexDigit?_hexDigit : ∀ n < 16, hexDigit? (hexDigit n) = some n := by decide

/-- An escape of the character: it reads as the character, and is not read when it is cut off. -/
structure Escapes (escape : List Char) (x : Char) : Prop where
  read : ∀ {c : Cursor} {rest : List Char}, c.rest = escape ++ rest →
    ∃ c', c'.rest = rest ∧ readEscape c = .ok (.ok x, c')
  cut : ∀ {c : Cursor}, CutOff c.rest escape → ∃ e, readEscape c = .error e

/-- An escape of one letter: nothing but the end of the text can come in its place. -/
theorem escapes_letter {letter x : Char} (h : ∀ (c : Cursor) (rest : List Char), c.rest = letter :: rest →
    readEscape c = .ok (.ok x, c.advance)) : Escapes [letter] x where
  read {c rest} hc := ⟨c.advance, by simp [hc], h c rest hc⟩
  cut {c} hc := by
    have hnil : c.rest = [] := cutOff_singleton_iff.1 hc
    rw [readEscape]
    simp [hnil]

/-- Four digits are read as the number that they stand for. -/
theorem readHex_of_rest {c : Cursor} {rest : List Char} {n : Nat} (hn : n < 0x20)
    (h : c.rest = '0' :: '0' :: hexDigit (n / 16) :: hexDigit (n % 16) :: rest) :
    readHex c = .ok (n, c.skip 4) := by
  have hhigh : hexDigit? (hexDigit (n / 16)) = some (n / 16) := hexDigit?_hexDigit _ (by omega)
  have hlow : hexDigit? (hexDigit (n % 16)) = some (n % 16) := hexDigit?_hexDigit _ (by omega)
  have hzero : hexDigit? '0' = some 0 := rfl
  have hsum : ((0 * 16 + 0) * 16 + n / 16) * 16 + n % 16 = n := by omega
  rw [readHex]
  simp only [h, hzero, hhigh, hlow, hsum]

/-- Less than four digits are not read. -/
theorem readHex_of_length_lt {c : Cursor} (h : c.rest.length < 4) : ∃ e, readHex c = .error e := by
  rw [readHex]
  split
  · rename_i heq
    rw [heq] at h
    simp at h
    omega
  · exact ⟨_, rfl⟩

/-- The escape of a character by its number. -/
theorem escapes_number {x : Char} (h : x.toNat < 0x20) :
    Escapes ['u', '0', '0', hexDigit (x.toNat / 16), hexDigit (x.toNat % 16)] x where
  read {c rest} hc := by
    have hrest : c.advance.rest =
        '0' :: '0' :: hexDigit (x.toNat / 16) :: hexDigit (x.toNat % 16) :: rest := by simp [hc]
    refine ⟨c.advance.skip 4, by simp [hc], ?_⟩
    rw [readEscape]
    simp only [hc, List.cons_append, readHex_of_rest h hrest, Char.ofNat_toNat]
    rw [if_neg, if_neg] <;> simp <;> omega
  cut {c} hc := by
    rcases cutOff_cons_iff.1 hc with hnil | ⟨digits, hc, hcut⟩
    · rw [readEscape]
      simp [hnil]
    · have hlen : digits.length < 4 := by
        have := hcut.1.length_le
        rcases Nat.lt_or_eq_of_le this with hlt | heq
        · exact hlt
        · exact absurd (hcut.1.eq_of_length heq) hcut.2
      obtain ⟨e, he⟩ := readHex_of_length_lt (c := c.advance) (by simpa [hc] using hlen)
      rw [readEscape]
      simp [hc, he]

/-- The characters that are escaped by a letter, with that letter. -/
def letters : List (Char × Char) :=
  [('"', '"'), ('\\', '\\'), ('\x08', 'b'), ('\x0c', 'f'), ('\n', 'n'), ('\r', 'r'), ('\t', 't')]

theorem escapeChar_of_mem_letters {x letter : Char} (h : (x, letter) ∈ letters) :
    escapeChar x = ['\\', letter] ∧ Escapes [letter] x := by
  simp only [letters, List.mem_cons, Prod.mk.injEq, List.not_mem_nil, or_false] at h
  rcases h with ⟨rfl, rfl⟩ | ⟨rfl, rfl⟩ | ⟨rfl, rfl⟩ | ⟨rfl, rfl⟩ | ⟨rfl, rfl⟩ | ⟨rfl, rfl⟩ | ⟨rfl, rfl⟩ <;>
    exact ⟨rfl, escapes_letter fun c rest h => by simp [readEscape, h]⟩

/-- The ways in which a character is written. -/
theorem escapeChar_eq (x : Char) :
    (escapeChar x = [x] ∧ x ≠ '"' ∧ x ≠ '\\' ∧ ¬ x.toNat < 0x20) ∨ (∃ letter, (x, letter) ∈ letters) ∨
      x.toNat < 0x20 ∧
        escapeChar x = '\\' :: ['u', '0', '0', hexDigit (x.toNat / 16), hexDigit (x.toNat % 16)] := by
  by_cases hletter : ∃ letter, (x, letter) ∈ letters
  · exact Or.inr (Or.inl hletter)
  · have hne : x ∉ letters.map Prod.fst := by
      intro hx
      obtain ⟨⟨_, letter⟩, hmem, rfl⟩ := List.mem_map.1 hx
      exact hletter ⟨letter, hmem⟩
    simp only [letters, List.map_cons, List.map_nil, List.mem_cons, List.not_mem_nil, or_false, not_or] at hne
    by_cases hlow : x.toNat < 0x20
    · exact Or.inr (Or.inr ⟨hlow, by simp [escapeChar, hne, hlow]⟩)
    · exact Or.inl ⟨by simp [escapeChar, hne, hlow], hne.1, hne.2.1, hlow⟩

/-- A character is written as itself, unless it may not stand in a string, or as a backslash and an escape. -/
theorem escapeChar_cases (x : Char) :
    (escapeChar x = [x] ∧ x ≠ '"' ∧ x ≠ '\\' ∧ ¬ x.toNat < 0x20) ∨
    ∃ escape, escapeChar x = '\\' :: escape ∧ Escapes escape x := by
  rcases escapeChar_eq x with h | ⟨letter, hmem⟩ | ⟨hlow, heq⟩
  · exact Or.inl h
  · exact Or.inr ⟨_, escapeChar_of_mem_letters hmem⟩
  · exact Or.inr ⟨_, heq, escapes_number hlow⟩

/-- No line end is written for a character, even if it is one. -/
theorem newline_notMem_escapeChar (x : Char) : '\n' ∉ escapeChar x := by
  have hdigit : ∀ n < 16, '\n' ≠ hexDigit n := by decide
  have hletters : ∀ p ∈ letters, p.2 ≠ '\n' := by decide
  rcases escapeChar_eq x with ⟨heq, -, -, hlow⟩ | ⟨letter, hmem⟩ | ⟨hlow, heq⟩
  · rw [heq, List.mem_singleton]
    rintro rfl
    exact hlow (by decide)
  · rw [(escapeChar_of_mem_letters hmem).1]
    simp [(hletters _ hmem).symm]
  · rw [heq]
    simp [hdigit (x.toNat / 16) (by omega), hdigit (x.toNat % 16) (by omega)]

theorem escapeChar_ne_nil (x : Char) : escapeChar x ≠ [] := by
  rcases escapeChar_cases x with ⟨heq, -⟩ | ⟨_, heq, -⟩ <;> simp [heq]

/-- Writing characters takes at least as many of them. -/
theorem length_le_flatMap_escapeChar (s : List Char) : s.length ≤ (s.flatMap escapeChar).length := by
  induction s with
  | nil => exact Nat.le_refl 0
  | cons x s ih =>
    have hpos : 0 < (escapeChar x).length := List.length_pos_iff.2 (escapeChar_ne_nil x)
    simp only [List.flatMap_cons, List.length_append, List.length_cons]
    omega

/-! ## Strings -/

section Strings

variable {c : Cursor} {x : Char} {s rest : List Char}

theorem readString_of_rest_eq_nil (hc : c.rest = []) (fuel : Nat) (acc : Except SyntaxFault (List Char)) :
    readString fuel acc c = .error ⟨.endInString, c.position⟩ := by
  unfold readString
  rw [hc]

theorem readString_zero (acc : Except SyntaxFault (List Char)) (c : Cursor) :
    readString 0 acc c = .error ⟨.endInString, c.position⟩ := by
  unfold readString
  cases c.rest <;> rfl

theorem readString_quote (hc : c.rest = '"' :: rest) (fuel : Nat) (acc : Except SyntaxFault (List Char)) :
    readString (fuel + 1) acc c = .ok (acc.map fun cs => String.ofList cs.reverse, c.advance) := by
  rw [readString.eq_def]
  simp only [hc, if_true]

theorem readString_plain (hc : c.rest = x :: rest) (hquote : x ≠ '"') (hslash : x ≠ '\\')
    (hlow : ¬ x.toNat < 0x20) (fuel : Nat) (acc : Except SyntaxFault (List Char)) :
    readString (fuel + 1) acc c = readString fuel (acc.map (x :: ·)) c.advance := by
  rw [readString.eq_def]
  simp only [hc, hquote, hslash, hlow, if_false]

theorem readString_escape {c' : Cursor} (hc : c.rest = '\\' :: rest)
    (hread : readEscape c.advance = .ok (.ok x, c')) (fuel : Nat) (acc : Except SyntaxFault (List Char)) :
    readString (fuel + 1) acc c = readString fuel (acc.map (x :: ·)) c' := by
  rw [readString.eq_def]
  simp only [hc, hread]
  rcases acc with e | cs <;> rfl

theorem readString_of_readEscape_eq_error {e : SyntaxFault} (hc : c.rest = '\\' :: rest)
    (hread : readEscape c.advance = .error e) (fuel : Nat) (acc : Except SyntaxFault (List Char)) :
    readString (fuel + 1) acc c = .error e := by
  rw [readString.eq_def]
  simp only [hc, hread]
  rfl

/-- One written character is read as one character. -/
theorem readString_escapeChar (hc : c.rest = escapeChar x ++ rest) (fuel : Nat)
    (acc : Except SyntaxFault (List Char)) :
    ∃ c', c'.rest = rest ∧ readString (fuel + 1) acc c = readString fuel (acc.map (x :: ·)) c' := by
  rcases escapeChar_cases x with ⟨heq, hquote, hslash, hlow⟩ | ⟨escape, heq, hesc⟩
  · rw [heq, List.singleton_append] at hc
    exact ⟨c.advance, by simp [hc], readString_plain hc hquote hslash hlow fuel acc⟩
  · rw [heq, List.cons_append] at hc
    have hadvance : c.advance.rest = escape ++ rest := by simp [hc]
    obtain ⟨c', hrest, hread⟩ := hesc.read hadvance
    exact ⟨c', hrest, readString_escape hc hread fuel acc⟩

/-- A part of a written character is not read. -/
theorem readString_of_cutOff_escapeChar (hc : CutOff c.rest (escapeChar x)) (fuel : Nat)
    (acc : Except SyntaxFault (List Char)) : ∃ e, readString fuel acc c = .error e := by
  rcases escapeChar_cases x with ⟨heq, -⟩ | ⟨escape, heq, hesc⟩
  · rw [heq, cutOff_singleton_iff] at hc
    exact ⟨_, readString_of_rest_eq_nil hc fuel acc⟩
  · rw [heq, cutOff_cons_iff] at hc
    rcases hc with hnil | ⟨q, hc, hcut⟩
    · exact ⟨_, readString_of_rest_eq_nil hnil fuel acc⟩
    · cases fuel with
      | zero => exact ⟨_, readString_zero acc c⟩
      | succ fuel =>
        obtain ⟨e, he⟩ := hesc.cut (c := c.advance) (by simpa [hc] using hcut)
        exact ⟨e, readString_of_readEscape_eq_error hc he fuel acc⟩

/-- A string is read from its text up to the closing quote, behind what was read before. -/
theorem readString_append {fuel : Nat} (hfuel : s.length < fuel) (before : List Char)
    (hc : c.rest = s.flatMap escapeChar ++ '"' :: rest) :
    ∃ c', c'.rest = rest ∧
      readString fuel (.ok before) c = .ok (.ok (String.ofList (before.reverse ++ s)), c') := by
  induction s generalizing c fuel before with
  | nil =>
    obtain ⟨fuel, rfl⟩ := Nat.exists_eq_succ_of_ne_zero (Nat.ne_of_gt hfuel)
    refine ⟨c.advance, by simp [hc], ?_⟩
    rw [readString_quote hc, List.append_nil]
    rfl
  | cons x s ih =>
    obtain ⟨fuel, rfl⟩ := Nat.exists_eq_succ_of_ne_zero (Nat.ne_of_gt (Nat.zero_lt_of_lt hfuel))
    rw [List.flatMap_cons, List.append_assoc] at hc
    obtain ⟨c', hc', hread⟩ := readString_escapeChar hc fuel (.ok before)
    obtain ⟨c'', hc'', hread'⟩ := ih (by simpa using hfuel) (x :: before) hc'
    refine ⟨c'', hc'', ?_⟩
    rw [hread]
    simpa [Except.map] using hread'

/-- No string is read from a part of its text. -/
theorem readString_of_cutOff (hc : CutOff c.rest (s.flatMap escapeChar ++ ['"'])) (fuel : Nat)
    (acc : Except SyntaxFault (List Char)) : ∃ e, readString fuel acc c = .error e := by
  induction s generalizing c fuel acc with
  | nil => exact ⟨_, readString_of_rest_eq_nil (cutOff_singleton_iff.1 hc) fuel acc⟩
  | cons x s ih =>
    rw [List.flatMap_cons, List.append_assoc, cutOff_append_iff] at hc
    rcases hc with hc | ⟨q, hc, hcut⟩
    · exact readString_of_cutOff_escapeChar hc fuel acc
    · cases fuel with
      | zero => exact ⟨_, readString_zero acc c⟩
      | succ fuel =>
        obtain ⟨c', hc', hread⟩ := readString_escapeChar hc fuel acc
        rw [hread]
        exact ih (by rwa [hc']) fuel _

end Strings

end Interleave.Json
